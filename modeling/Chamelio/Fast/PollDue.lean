import Chamelio.Fast.EnabledQueues

/-!
# What a poll of the queues hands over

The nested loops of `fast_queues_poll` come down to one list: the entries of
the guests with budget, in the order of the guests, of their queues and of
the entries, as far as there are mbufs. `duePoll` is that list, computed from
the state before the poll. The handlers answer the entries one after the
other (`dueWalk`); the poll returns all of them handed over and dequeued when
every answer is there and not negative, and -1 at the first negative one
(`fastQueuesPoll_due`).

Nothing is asked of the lists of enabled queues here: the queues a poll
visits are those its own rotations bring to the head (`visitOrder`).
-/

namespace Chamelio.Fast.Poll

open Chamelio.Control

variable {W ε : Type}

/-! ## The entries and the answers -/

/-- An entry to hand over: its guest, the index and the id of its queue. -/
structure Due (ε : Type) where
  gid : Nat
  qi : Nat
  qid : Nat
  qe : ε

/-- The queues at the head of a guest's list in the next `n` rounds. -/
def visitOrder : Nat → GuestFast → List Nat
  | 0, _ => []
  | n + 1, g => g.dqueuesHead :: visitOrder n (dqueueRotateHead g g.dqueuesHead)

/-- The entries of queues that are drained one after the other. -/
def drained : List Nat → (Nat → List ε) → List (Nat × ε)
  | [], _ => []
  | q :: qs, f => (f q).map (fun e => (q, e)) ++ drained qs fun i => if i = q then [] else f i

/-- The guest has an enabled queue and budget. -/
def PollCtx.takesTurn (s : PollCtx W ε) (gid : Nat) : Bool :=
  decide ((s.ctx.guests gid).dqueuesHead ≠ protoqIdInvalid) && !s.outOfBudget gid

/-- The entries of a guest that are due. -/
def dueGuest (s : PollCtx W ε) (gid : Nat) : List (Due ε) :=
  if s.takesTurn gid then
    (drained (visitOrder (s.ctx.guests gid).ndqueues (s.ctx.guests gid)) (s.queued gid)).map
      fun e => { gid, qi := e.1, qid := ((s.ctx.guests gid).dqueues e.1).id, qe := e.2 }
  else []

/-- The entries of some guests that are due. -/
def dueGuests (s : PollCtx W ε) (gids : List Nat) : List (Due ε) := gids.flatMap (dueGuest s)

/-- What a handler answers, and the world after it. -/
def answer (h : Handlers W ε) (s : PollCtx W ε) (gid : Nat) (ev : Event ε) (mb : Nat) (w : W) :
    Option (Ret × W) :=
  (runEvent h { s with world := w } gid ev mb).map fun r => (r.1, r.2.world)

/-- How a list of entries is answered. -/
inductive DueEnd (W : Type)
  | done (w : W) (ntx : Nat)
  /-- A negative answer. -/
  | bad
  /-- There is no handler. -/
  | crash

/-- One entry is answered, with the `ntx`-th mbuf. -/
def dueStep (h : Handlers W ε) (s : PollCtx W ε) (mbOf : Nat → Nat) (d : Due ε) (w : W)
    (ntx : Nat) : DueEnd W :=
  match answer h s d.gid (.deq d.qid d.qe) (mbOf ntx) w with
  | none => .crash
  | some (r, w) =>
    if r.ret < 0 ∨ r.execRet < 0 then .bad
    else if 0 < r.ret then
      .done (h.infraTx d.gid (mbOf ntx) r.ret w).2
        (if (h.infraTx d.gid (mbOf ntx) r.ret w).1 = .err then ntx else ntx + 1)
    else .done w ntx

/-- The entries are answered one after the other. -/
def dueWalk (h : Handlers W ε) (s : PollCtx W ε) (mbOf : Nat → Nat) :
    List (Due ε) → W → Nat → DueEnd W
  | [], w, ntx => .done w ntx
  | d :: ds, w, ntx =>
    match dueStep h s mbOf d w ntx with
    | .done w ntx => dueWalk h s mbOf ds w ntx
    | .bad => .bad
    | .crash => .crash

/-- The entries a poll hands over, if none of them is answered negatively. -/
def duePoll (s : PollCtx W ε) (w : TxWindow) : List (Due ε) :=
  (dueGuests s (guestOrder s.ctx.nGuests s.queuesStart)).take w.num

/-- How the entries of a poll are answered. -/
def duePollEnd (h : Handlers W ε) (s : PollCtx W ε) (io : PollIo) : DueEnd W :=
  let (w, mbufs) := txcacheAlloc s.mbufs io.grants (s.batch fastDeqBatchSize)
  dueWalk h s (({ s with mbufs } : PollCtx W ε).windowMb w) (duePoll s w) s.world 0

theorem dueWalk_append (h : Handlers W ε) (s : PollCtx W ε) (mbOf : Nat → Nat)
    (ds₁ ds₂ : List (Due ε)) (w : W) (ntx : Nat) :
    dueWalk h s mbOf (ds₁ ++ ds₂) w ntx =
      match dueWalk h s mbOf ds₁ w ntx with
      | .done w ntx => dueWalk h s mbOf ds₂ w ntx
      | .bad => .bad
      | .crash => .crash := by
  induction ds₁ generalizing w ntx with
  | nil => rfl
  | cons d ds₁ ih =>
    show (match dueStep h s mbOf d w ntx with
      | .done w ntx => dueWalk h s mbOf (ds₁ ++ ds₂) w ntx
      | .bad => .bad
      | .crash => .crash) = match (match dueStep h s mbOf d w ntx with
        | .done w ntx => dueWalk h s mbOf ds₁ w ntx
        | .bad => .bad
        | .crash => .crash) with
      | .done w ntx => dueWalk h s mbOf ds₂ w ntx
      | .bad => .bad
      | .crash => .crash
    cases dueStep h s mbOf d w ntx with
    | done w ntx => exact ih w ntx
    | bad => rfl
    | crash => rfl

/-! ## What the loops leave alone -/

/-- Two records of a guest differ in the order of the enabled queues at most. -/
structure SameGuest (g g' : GuestFast) : Prop where
  events : g'.hasEvents = g.hasEvents
  proto : g'.protoType = g.protoType
  count : g'.ndqueues = g.ndqueues
  ids : ∀ i, (g'.dqueues i).id = (g.dqueues i).id

theorem SameGuest.refl (g : GuestFast) : SameGuest g g := ⟨rfl, rfl, rfl, fun _ => rfl⟩

theorem SameGuest.trans {g₁ g₂ g₃ : GuestFast} (h₁ : SameGuest g₁ g₂) (h₂ : SameGuest g₂ g₃) :
    SameGuest g₁ g₃ :=
  ⟨h₂.events.trans h₁.events, h₂.proto.trans h₁.proto, h₂.count.trans h₁.count,
    fun i => (h₂.ids i).trans (h₁.ids i)⟩

theorem dqueueRotateHead_same (g : GuestFast) (qi : Nat) : SameGuest g (dqueueRotateHead g qi) := by
  refine ⟨rfl, rfl, rfl, fun i => ?_⟩
  unfold dqueueRotateHead
  simp only [setDqueue_dqueues]
  by_cases hi : i = qi <;> by_cases ht : i = g.dqueuesTail <;> simp_all

/-- The parts of the context no loop over the queues changes. -/
structure Static (s s' : PollCtx W ε) : Prop where
  mode : s'.fpProtoMode = s.fpProtoMode
  iso : s'.perfIso = s.perfIso
  count : s'.ctx.nGuests = s.ctx.nGuests
  guest : ∀ g, SameGuest (s.ctx.guests g) (s'.ctx.guests g)

theorem Static.refl (s : PollCtx W ε) : Static s s :=
  ⟨rfl, rfl, rfl, fun g => .refl (s.ctx.guests g)⟩

theorem Static.trans {s₁ s₂ s₃ : PollCtx W ε} (h₁ : Static s₁ s₂) (h₂ : Static s₂ s₃) :
    Static s₁ s₃ :=
  ⟨h₂.mode.trans h₁.mode, h₂.iso.trans h₁.iso, h₂.count.trans h₁.count,
    fun g => (h₁.guest g).trans (h₂.guest g)⟩

theorem Static.rotateHead (s : PollCtx W ε) (gid qi : Nat) : Static s (s.rotateHead gid qi) := by
  refine ⟨rfl, rfl, rfl, fun g => ?_⟩
  unfold PollCtx.rotateHead
  by_cases hg : g = gid
  · subst hg
    rw [FastCtx.setGuest_same]
    exact dqueueRotateHead_same ..
  · rw [FastCtx.setGuest_ne _ hg]
    exact .refl _

/-- What a handler answers depends on these parts only. -/
theorem answer_congr {h : Handlers W ε} {s s' : PollCtx W ε} (hs : Static s s') (gid : Nat)
    (ev : Event ε) (mb : Nat) (w : W) :
    answer h s' gid ev mb w = answer h s gid ev mb w := by
  unfold answer runEvent
  dsimp only
  rw [hs.mode, (hs.guest gid).events, (hs.guest gid).proto]
  cases s.fpProtoMode with
  | ebpf =>
    dsimp only
    split <;> rfl
  | hand => rfl
  | unknown => rfl

theorem dueStep_congr {h : Handlers W ε} {s s' : PollCtx W ε} (hs : Static s s')
    (mbOf : Nat → Nat) (d : Due ε) (w : W) (ntx : Nat) :
    dueStep h s' mbOf d w ntx = dueStep h s mbOf d w ntx := by
  unfold dueStep
  rw [answer_congr hs]

theorem dueWalk_congr {h : Handlers W ε} {s s' : PollCtx W ε} (hs : Static s s')
    (mbOf : Nat → Nat) (ds : List (Due ε)) (w : W) (ntx : Nat) :
    dueWalk h s' mbOf ds w ntx = dueWalk h s mbOf ds w ntx := by
  induction ds generalizing w ntx with
  | nil => rfl
  | cons d ds ih =>
    unfold dueWalk
    rw [dueStep_congr hs]
    cases dueStep h s mbOf d w ntx with
    | done w ntx => exact ih w ntx
    | bad => rfl
    | crash => rfl

/-- A handler runs: it is logged, unless the mode has none and answers -1. -/
theorem runEvent_cases (h : Handlers W ε) (s : PollCtx W ε) (gid : Nat) (ev : Event ε) (mb : Nat) :
    (runEvent h s gid ev mb = none ∧ answer h s gid ev mb s.world = none) ∨
    ∃ r s', runEvent h s gid ev mb = some (r, s') ∧
      answer h s gid ev mb s.world = some (r, s'.world) ∧
      (s' = s.called gid ev mb s'.world ∨ s' = s ∧ r.ret < 0) := by
  have hself : ({ s with world := s.world } : PollCtx W ε) = s := rfl
  unfold answer
  rw [hself]
  unfold runEvent
  cases s.fpProtoMode with
  | ebpf =>
    dsimp only
    split
    · exact .inr ⟨_, _, rfl, rfl, .inl rfl⟩
    · exact .inl ⟨rfl, rfl⟩
  | hand => exact .inr ⟨_, _, rfl, rfl, .inl rfl⟩
  | unknown => exact .inr ⟨_, _, rfl, rfl, .inr ⟨rfl, by decide⟩⟩

/-! ## What was handed over -/

/-- The entries of queue `q` of guest `g` that its handler was given so far. -/
def PollCtx.handed (s : PollCtx W ε) (g q : Nat) : List ε :=
  s.calls.filterMap fun c =>
    match c.ev with
    | .deq qid qe => if c.gid = g ∧ qid = q then some qe else none
    | _ => none

theorem handed_called (s : PollCtx W ε) (d : Due ε) (mb : Nat) (w : W) (g q : Nat) :
    (s.called d.gid (.deq d.qid d.qe) mb w).handed g q =
      s.handed g q ++ if d.gid = g ∧ d.qid = q then [d.qe] else [] := by
  unfold PollCtx.handed PollCtx.called
  rw [List.filterMap_append]
  congr 1
  by_cases hg : d.gid = g ∧ d.qid = q
  · simp [hg]
  · rw [if_neg hg, List.filterMap_cons, List.filterMap_nil]
    dsimp only
    rw [if_neg hg]

/-- The entries of one queue among the due ones. -/
def ofQueue (ds : List (Due ε)) (g q : Nat) : List ε :=
  ds.filterMap fun d => if d.gid = g ∧ d.qi = q then some d.qe else none

/-- The same by the id of the queue. -/
def ofQueueId (ds : List (Due ε)) (g q : Nat) : List ε :=
  ds.filterMap fun d => if d.gid = g ∧ d.qid = q then some d.qe else none

theorem ofQueue_append (ds₁ ds₂ : List (Due ε)) (g q : Nat) :
    ofQueue (ds₁ ++ ds₂) g q = ofQueue ds₁ g q ++ ofQueue ds₂ g q := List.filterMap_append

theorem ofQueueId_append (ds₁ ds₂ : List (Due ε)) (g q : Nat) :
    ofQueueId (ds₁ ++ ds₂) g q = ofQueueId ds₁ g q ++ ofQueueId ds₂ g q := List.filterMap_append

theorem ofQueue_single (d : Due ε) (g q : Nat) :
    ofQueue [d] g q = if d.gid = g ∧ d.qi = q then [d.qe] else [] := by
  unfold ofQueue
  split <;> simp [*]

theorem ofQueueId_single (d : Due ε) (g q : Nat) :
    ofQueueId [d] g q = if d.gid = g ∧ d.qid = q then [d.qe] else [] := by
  unfold ofQueueId
  split <;> simp [*]

/-- The entries `ds` were handed over and dequeued, and nothing else. -/
structure Took (l : DeqLoop W ε) (ds : List (Due ε)) (l' : DeqLoop W ε) : Prop where
  static : Static l.s l'.s
  cache : l'.s.mbufs.cache = l.s.mbufs.cache
  ndeq : l'.ndeq = l.ndeq + ds.length
  handed : ∀ g q, l'.s.handed g q = l.s.handed g q ++ ofQueueId ds g q
  queued : ∀ g q, l.s.queued g q = ofQueue ds g q ++ l'.s.queued g q

theorem Took.refl (l : DeqLoop W ε) : Took l [] l :=
  ⟨.refl l.s, rfl, rfl, fun _ _ => (List.append_nil _).symm, fun _ _ => rfl⟩

theorem Took.trans {l₁ l₂ l₃ : DeqLoop W ε} {ds₁ ds₂ : List (Due ε)} (h₁ : Took l₁ ds₁ l₂)
    (h₂ : Took l₂ ds₂ l₃) : Took l₁ (ds₁ ++ ds₂) l₃ where
  static := h₁.static.trans h₂.static
  cache := h₂.cache.trans h₁.cache
  ndeq := by
    rw [h₂.ndeq, h₁.ndeq, List.length_append]
    omega
  handed := fun g q => by
    rw [h₂.handed, h₁.handed, ofQueueId_append, List.append_assoc]
  queued := fun g q => by
    rw [h₁.queued, h₂.queued, ofQueue_append, List.append_assoc]

/-- How a loop ends, by the answers to the entries it has to hand over. -/
def EndsAs (e : DueEnd W) (res : Option (Bool × DeqLoop W ε)) (good bad : DeqLoop W ε → Prop) :
    Prop :=
  match e with
  | .done w ntx => ∃ l, res = some (true, l) ∧ l.s.world = w ∧ l.ntx = ntx ∧ good l
  | .bad => ∃ l, res = some (false, l) ∧ bad l
  | .crash => res = none

/-- The guests, their budgets and the transmit cache are as they were. -/
structure SameGuests (s s' : PollCtx W ε) : Prop where
  ctx : s'.ctx = s.ctx
  budgets : s'.budgets = s.budgets
  cache : s'.mbufs.cache = s.mbufs.cache

theorem SameGuests.refl (s : PollCtx W ε) : SameGuests s s := ⟨rfl, rfl, rfl⟩

theorem SameGuests.trans {s₁ s₂ s₃ : PollCtx W ε} (h₁ : SameGuests s₁ s₂)
    (h₂ : SameGuests s₂ s₃) : SameGuests s₁ s₃ :=
  ⟨h₂.ctx.trans h₁.ctx, h₂.budgets.trans h₁.budgets, h₂.cache.trans h₁.cache⟩

/-- What `transmit` leaves alone. -/
structure SentOnly (s s' : PollCtx W ε) : Prop where
  static : Static s s'
  guests : SameGuests s s'
  calls : s'.calls = s.calls
  queued : s'.queued = s.queued

theorem transmit_sentOnly (h : Handlers W ε) (s : PollCtx W ε) (gid mb : Nat) (len : Int) :
    SentOnly s (transmit h s gid mb len).1 := by
  unfold transmit
  rcases h.infraTx gid mb len s.world with ⟨r, w⟩
  cases r <;>
    exact ⟨⟨rfl, rfl, rfl, fun g => .refl (s.ctx.guests g)⟩, ⟨rfl, rfl, rfl⟩, rfl, rfl⟩

section

variable {h : Handlers W ε} {w : TxWindow}

/-- The entry at the head of queue `qi`, as one that is due. -/
def PollCtx.dueAt (s : PollCtx W ε) (gid qi : Nat) (qe : ε) : Due ε :=
  { gid, qi, qid := ((s.ctx.guests gid).dqueues qi).id, qe }

/-- One entry, before it is dequeued. -/
theorem queuesPollGuestDequeue_due (gid qi : Nat) (qe : ε) (l : DeqLoop W ε) :
    EndsAs (dueStep h l.s (l.s.windowMb w) (l.s.dueAt gid qi qe) l.s.world l.ntx)
      (queuesPollGuestDequeue h w gid qi qe l)
      (fun l' => Static l.s l'.s ∧ SameGuests l.s l'.s ∧ l'.s.queued = l.s.queued ∧
        l'.ndeq = l.ndeq + 1 ∧ ∀ g q, l'.s.handed g q =
          l.s.handed g q ++ ofQueueId [l.s.dueAt gid qi qe] g q)
      (fun l' => Static l.s l'.s ∧ SameGuests l.s l'.s ∧ l'.s.queued = l.s.queued) := by
  have huse : answer h (l.s.useMb w l.ntx) gid
      (.deq ((l.s.ctx.guests gid).dqueues qi).id qe) (l.s.windowMb w l.ntx) l.s.world =
      answer h l.s gid (.deq ((l.s.ctx.guests gid).dqueues qi).id qe) (l.s.windowMb w l.ntx)
        l.s.world :=
    answer_congr (show Static l.s (l.s.useMb w l.ntx) from
      ⟨rfl, rfl, rfl, fun g => .refl (l.s.ctx.guests g)⟩) _ _ _ _
  have hctx : (l.s.useMb w l.ntx).ctx = l.s.ctx := rfl
  unfold queuesPollGuestDequeue dueStep PollCtx.dueAt
  dsimp only
  rw [hctx]
  rcases runEvent_cases h (l.s.useMb w l.ntx) gid
    (.deq ((l.s.ctx.guests gid).dqueues qi).id qe) (l.s.windowMb w l.ntx) with
    ⟨hrun, hans⟩ | ⟨r, s', hrun, hans, hlog⟩
  · rw [show (l.s.useMb w l.ntx).world = l.s.world from rfl, huse] at hans
    rw [hrun, hans]
    exact rfl
  rw [show (l.s.useMb w l.ntx).world = l.s.world from rfl, huse] at hans
  rw [hrun, hans]
  dsimp only
  by_cases hneg : r.ret < 0 ∨ r.execRet < 0
  · rw [if_pos hneg, if_pos hneg]
    refine ⟨_, rfl, ?_⟩
    rcases hlog with hlog | ⟨hlog, -⟩
    · rw [hlog]
      exact ⟨⟨rfl, rfl, rfl, fun g => .refl (l.s.ctx.guests g)⟩, ⟨rfl, rfl, rfl⟩, rfl⟩
    · rw [hlog]
      exact ⟨⟨rfl, rfl, rfl, fun g => .refl (l.s.ctx.guests g)⟩, ⟨rfl, rfl, rfl⟩, rfl⟩
  rw [if_neg hneg, if_neg hneg]
  have hcalled : s' = (l.s.useMb w l.ntx).called gid
      (.deq ((l.s.ctx.guests gid).dqueues qi).id qe) (l.s.windowMb w l.ntx) s'.world :=
    hlog.resolve_right fun hno => hneg (.inl hno.2)
  have hhanded : ∀ g q, s'.handed g q =
      l.s.handed g q ++ ofQueueId [l.s.dueAt gid qi qe] g q := fun g q => by
    rw [ofQueueId_single, hcalled]
    exact handed_called (l.s.useMb w l.ntx) (l.s.dueAt gid qi qe) _ _ g q
  have hstatic : Static l.s s' := by
    rw [hcalled]
    exact ⟨rfl, rfl, rfl, fun g => .refl (l.s.ctx.guests g)⟩
  have hguests : SameGuests l.s s' := by
    rw [hcalled]
    exact ⟨rfl, rfl, rfl⟩
  have hqueued : s'.queued = l.s.queued := by rw [hcalled]; rfl
  by_cases hpos : 0 < r.ret
  · rw [if_pos hpos, if_pos hpos]
    have hsent := transmit_sentOnly h s' gid (l.s.windowMb w l.ntx) r.ret
    refine ⟨_, rfl, ?_, ?_, hstatic.trans hsent.static, hguests.trans hsent.guests,
      hsent.queued.trans hqueued, rfl, fun g q => ?_⟩
    · exact transmit_world ..
    · show (if (transmit h s' gid (l.s.windowMb w l.ntx) r.ret).2 = true then _ else _) = _
      rw [transmit_used]
      by_cases herr : (h.infraTx gid (l.s.windowMb w l.ntx) r.ret s'.world).1 = .err
      · rw [if_pos herr, if_neg (by simp [herr])]
      · rw [if_neg herr, if_pos (by simp [herr])]
    · show PollCtx.handed _ g q = _
      unfold PollCtx.handed
      rw [hsent.calls]
      exact hhanded g q
  · rw [if_neg hpos, if_neg hpos]
    exact ⟨_, rfl, rfl, rfl, hstatic, hguests, hqueued, rfl, hhanded⟩

/-- An entry at the front of a list. -/
theorem dueWalk_single (s : PollCtx W ε) (mbOf : Nat → Nat) (d : Due ε) (wd : W) (ntx : Nat) :
    dueWalk h s mbOf [d] wd ntx = dueStep h s mbOf d wd ntx := by
  unfold dueWalk
  cases dueStep h s mbOf d wd ntx with
  | done wd ntx => rfl
  | bad => rfl
  | crash => rfl

theorem EndsAs.mono {e : DueEnd W} {res : Option (Bool × DeqLoop W ε)}
    {good bad good' bad' : DeqLoop W ε → Prop} (he : EndsAs e res good bad)
    (hgood : ∀ l, good l → good' l) (hbad : ∀ l, bad l → bad' l) : EndsAs e res good' bad' := by
  cases e with
  | done wd ntx =>
    obtain ⟨l, hres, hw, hn, hl⟩ := he
    exact ⟨l, hres, hw, hn, hgood l hl⟩
  | bad =>
    obtain ⟨l, hres, hl⟩ := he
    exact ⟨l, hres, hbad l hl⟩
  | crash => exact he

/-- **One loop after another**: the second hands over what the first left. -/
theorem EndsAs.seq {s : PollCtx W ε} {mbOf : Nat → Nat} {ds₁ ds₂ : List (Due ε)} {wd : W}
    {ntx : Nat} {first : Option (Bool × DeqLoop W ε)}
    {rest : DeqLoop W ε → Option (Bool × DeqLoop W ε)} {mid bad₁ good bad : DeqLoop W ε → Prop}
    (h₁ : EndsAs (dueWalk h s mbOf ds₁ wd ntx) first mid bad₁) (hbad : ∀ l, bad₁ l → bad l)
    (h₂ : ∀ l, mid l → EndsAs (dueWalk h s mbOf ds₂ l.s.world l.ntx) (rest l) good bad) :
    EndsAs (dueWalk h s mbOf (ds₁ ++ ds₂) wd ntx)
      (match first with
        | none => none
        | some (false, l) => some (false, l)
        | some (true, l) => rest l) good bad := by
  rw [dueWalk_append]
  cases he : dueWalk h s mbOf ds₁ wd ntx with
  | done wd' ntx' =>
    rw [he] at h₁
    obtain ⟨l, rfl, rfl, rfl, hl⟩ := h₁
    exact h₂ l hl
  | bad =>
    rw [he] at h₁
    obtain ⟨l, rfl, hl⟩ := h₁
    exact ⟨l, rfl, hbad l hl⟩
  | crash =>
    rw [he] at h₁
    obtain rfl : first = none := h₁
    exact rfl

/-- Some entries of one queue. -/
theorem ofQueue_dueAt (s : PollCtx W ε) (gid qi : Nat) (es : List ε) (g q : Nat) :
    ofQueue (es.map (s.dueAt gid qi)) g q = if gid = g ∧ qi = q then es else [] := by
  unfold ofQueue
  rw [List.filterMap_map]
  induction es with
  | nil => rw [ite_self]; rfl
  | cons e es ih =>
    rw [List.filterMap_cons, ih]
    show (match (if gid = g ∧ qi = q then some e else none) with
      | none => _
      | some b => _) = _
    by_cases hg : gid = g ∧ qi = q
    · simp only [if_pos hg]
    · simp only [if_neg hg]

/-! ## A queue -/

/-- The entries of a queue are replaced. -/
def PollCtx.setQueue (s : PollCtx W ε) (gid qi : Nat) (es : List ε) : PollCtx W ε :=
  { s with queued := fun g q => if g = gid ∧ q = qi then es else s.queued g q }

theorem setQueue_same (s : PollCtx W ε) (gid qi : Nat) (es : List ε) :
    (s.setQueue gid qi es).queued gid qi = es := if_pos ⟨rfl, rfl⟩

theorem setQueue_static (s : PollCtx W ε) (gid qi : Nat) (es : List ε) :
    Static s (s.setQueue gid qi es) := ⟨rfl, rfl, rfl, fun g => .refl (s.ctx.guests g)⟩

theorem setQueue_guests (s : PollCtx W ε) (gid qi : Nat) (es : List ε) :
    SameGuests s (s.setQueue gid qi es) := ⟨rfl, rfl, rfl⟩

theorem queueDequeue_cons {s : PollCtx W ε} {gid qi : Nat} {qe : ε} {rest : List ε}
    (hq : s.queued gid qi = qe :: rest) :
    s.queueDequeue gid qi = some (s.setQueue gid qi rest) := by
  unfold PollCtx.queueDequeue
  rw [hq]
  rfl

/-- An entry was handed over and is dequeued. -/
theorem Took.one {gid qi : Nat} {qe : ε} {rest : List ε} {l l₁ : DeqLoop W ε}
    (hq : l.s.queued gid qi = qe :: rest) (hstatic : Static l.s l₁.s)
    (hcache : l₁.s.mbufs.cache = l.s.mbufs.cache) (hqueued : l₁.s.queued = l.s.queued) (hndeq : l₁.ndeq = l.ndeq + 1)
    (hhanded : ∀ g q, l₁.s.handed g q =
      l.s.handed g q ++ ofQueueId [l.s.dueAt gid qi qe] g q) :
    Took l [l.s.dueAt gid qi qe] { l₁ with s := l₁.s.setQueue gid qi rest } where
  static := hstatic.trans (setQueue_static ..)
  cache := hcache
  ndeq := hndeq
  handed := hhanded
  queued := fun g q => by
    rw [ofQueue_single]
    show l.s.queued g q = (if gid = g ∧ qi = q then [qe] else []) ++
      (if g = gid ∧ q = qi then rest else l₁.s.queued g q)
    by_cases hg : g = gid ∧ q = qi
    · obtain ⟨rfl, rfl⟩ := hg
      rw [if_pos ⟨rfl, rfl⟩, if_pos ⟨rfl, rfl⟩]
      exact hq
    · rw [if_neg hg, if_neg fun hg' => hg ⟨hg'.1.symm, hg'.2.symm⟩, hqueued]
      rfl

/-- The ids of the queues stay. -/
theorem dueAt_congr {s s' : PollCtx W ε} (hs : Static s s') (gid qi : Nat) :
    s'.dueAt gid qi = s.dueAt gid qi := by
  funext qe
  unfold PollCtx.dueAt
  rw [(hs.guest gid).ids]

theorem windowMb_congr {s s' : PollCtx W ε} (hcache : s'.mbufs.cache = s.mbufs.cache) :
    s'.windowMb w = s.windowMb w := by
  unfold PollCtx.windowMb
  rw [hcache]

/-- **A queue is drained as far as there is room**, or stops at an entry that
is answered negatively. -/
theorem drainQueue_due (gid qi room : Nat) (l : DeqLoop W ε) :
    EndsAs (dueWalk h l.s (l.s.windowMb w)
        (((l.s.queued gid qi).take room).map (l.s.dueAt gid qi)) l.s.world l.ntx)
      (drainQueue h w gid qi room l)
      (fun l' => Took l (((l.s.queued gid qi).take room).map (l.s.dueAt gid qi)) l' ∧
        SameGuests l.s l'.s)
      (fun l' => SameGuests l.s l'.s ∧ Static l.s l'.s ∧ l'.s.queued gid qi ≠ []) := by
  induction room generalizing l with
  | zero => exact ⟨l, rfl, rfl, rfl, .refl l, .refl l.s⟩
  | succ room ih =>
    cases hq : l.s.queued gid qi with
    | nil =>
      unfold drainQueue
      rw [hq]
      exact ⟨l, rfl, rfl, rfl, .refl l, .refl l.s⟩
    | cons qe rest =>
      unfold drainQueue
      rw [hq, List.take_succ_cons, List.map_cons, ← List.singleton_append]
      have hone := queuesPollGuestDequeue_due (h := h) (w := w) gid qi qe l
      rw [← dueWalk_single] at hone
      refine EndsAs.seq hone (fun l' hl' => ⟨hl'.2.1, hl'.1, ?_⟩) ?_
      · rw [hl'.2.2, hq]
        exact List.cons_ne_nil _ _
      intro l₁ ⟨hstatic, hsame, hqueued, hndeq, hhanded⟩
      rw [queueDequeue_cons (by rw [hqueued, hq])]
      have hone := Took.one hq hstatic hsame.cache hqueued hndeq hhanded
      have hsame' : SameGuests l.s (l₁.s.setQueue gid qi rest) :=
        hsame.trans (setQueue_guests ..)
      -- the rest of the queue is drained from the state behind the entry
      have hrest := ih { l₁ with s := l₁.s.setQueue gid qi rest }
      dsimp only at hrest
      rw [setQueue_same, dueAt_congr hone.static, dueWalk_congr hone.static,
        windowMb_congr hone.cache] at hrest
      exact hrest.mono (fun l' hl' => ⟨hone.trans hl'.1, hsame'.trans hl'.2⟩)
        (fun l' hl' => ⟨hsame'.trans hl'.1, hone.static.trans hl'.2.1, hl'.2.2⟩)

/-! ## The queues of a guest -/

/-- What draining a queue leaves in the queues of its guest. -/
theorem Took.left {gid qi room : Nat} {l l' : DeqLoop W ε}
    (ht : Took l (((l.s.queued gid qi).take room).map (l.s.dueAt gid qi)) l') (q : Nat) :
    l'.s.queued gid q = if q = qi then (l.s.queued gid qi).drop room else l.s.queued gid q := by
  have hq := ht.queued gid q
  rw [ofQueue_dueAt] at hq
  by_cases heq : q = qi
  · subst heq
    rw [if_pos ⟨rfl, rfl⟩] at hq
    rw [if_pos rfl]
    exact (List.append_cancel_left ((List.take_append_drop room _).trans hq)).symm
  · rw [if_neg fun h => heq h.2.symm] at hq
    rw [if_neg heq]
    exact hq.symm

/-- The queue at the head is rotated to the tail. -/
theorem rotateHead_guest {gid : Nat} {s s₁ : PollCtx W ε} (hsame : SameGuests s s₁) :
    (s₁.rotateHead gid (s.ctx.guests gid).dqueuesHead).ctx.guests gid =
      (s.ctx.guests gid).rotateHead := by
  unfold PollCtx.rotateHead
  rw [FastCtx.setGuest_same, hsame.ctx]
  rfl

/-- The entries that are due in the next rounds over the queues of a guest. -/
def PollCtx.dueRounds (s : PollCtx W ε) (gid rounds : Nat) : List (Due ε) :=
  (drained (visitOrder rounds (s.ctx.guests gid)) (s.queued gid)).map
    fun e => s.dueAt gid e.1 e.2

/-- Those of the rounds behind the first one. -/
def PollCtx.dueLater (s : PollCtx W ε) (gid rounds : Nat) : List (Due ε) :=
  (drained (visitOrder rounds (s.ctx.guests gid).rotateHead)
    fun q => if q = (s.ctx.guests gid).dqueuesHead then [] else s.queued gid q).map
    fun e => s.dueAt gid e.1 e.2

theorem dueRounds_succ (s : PollCtx W ε) (gid rounds : Nat) :
    s.dueRounds gid (rounds + 1) =
      (s.queued gid (s.ctx.guests gid).dqueuesHead).map
        (s.dueAt gid (s.ctx.guests gid).dqueuesHead) ++ s.dueLater gid rounds := by
  unfold PollCtx.dueRounds visitOrder drained
  rw [List.map_append, List.map_map]
  rfl

/-- Behind the first round, as many of the entries that are due later are due
as there is room. -/
theorem dueRounds_next {gid rounds : Nat} {l l₁ : DeqLoop W ε}
    (ht : Took l (((l.s.queued gid (l.s.ctx.guests gid).dqueuesHead).take (w.num - l.ndeq)).map
      (l.s.dueAt gid (l.s.ctx.guests gid).dqueuesHead)) l₁)
    (hsame : SameGuests l.s l₁.s) :
    ((l₁.s.rotateHead gid (l.s.ctx.guests gid).dqueuesHead).dueRounds gid rounds).take
        (w.num - l₁.ndeq) =
      (l.s.dueLater gid rounds).take
        (w.num - l.ndeq - (l.s.queued gid (l.s.ctx.guests gid).dqueuesHead).length) := by
  have hndeq := ht.ndeq
  rw [List.length_map, List.length_take] at hndeq
  by_cases hroom : w.num - l.ndeq ≤ (l.s.queued gid (l.s.ctx.guests gid).dqueuesHead).length
  · -- the queue took all the room
    rw [show w.num - l₁.ndeq = 0 by omega,
      show w.num - l.ndeq - (l.s.queued gid (l.s.ctx.guests gid).dqueuesHead).length = 0 by omega,
      List.take_zero, List.take_zero]
  · rw [show w.num - l₁.ndeq =
      w.num - l.ndeq - (l.s.queued gid (l.s.ctx.guests gid).dqueuesHead).length by omega]
    congr 1
    have hstatic := ht.static.trans
      (Static.rotateHead l₁.s gid (l.s.ctx.guests gid).dqueuesHead)
    have hqueued : (l₁.s.rotateHead gid (l.s.ctx.guests gid).dqueuesHead).queued gid =
        fun q => if q = (l.s.ctx.guests gid).dqueuesHead then [] else l.s.queued gid q := by
      funext q
      refine (ht.left q).trans ?_
      rw [List.drop_of_length_le (by omega)]
    unfold PollCtx.dueRounds PollCtx.dueLater
    rw [rotateHead_guest hsame, hqueued]
    simp only [dueAt_congr hstatic]

/-- At most `n` rotations turned the list of a guest; the lists of the others
are as they were. -/
structure Turned (gid n : Nat) (s s' : PollCtx W ε) : Prop where
  others : ∀ g, g ≠ gid → s'.ctx.guests g = s.ctx.guests g
  turned : ∃ k, k ≤ n ∧ s'.ctx.guests gid = GuestFast.rotateHead^[k] (s.ctx.guests gid)

theorem Turned.refl (gid n : Nat) (s : PollCtx W ε) : Turned gid n s s :=
  ⟨fun _ _ => rfl, 0, Nat.zero_le n, rfl⟩

/-- A rotation, and `n` more. -/
theorem Turned.succ {gid n : Nat} {s s₁ s' : PollCtx W ε} (hsame : SameGuests s s₁)
    (ht : Turned gid n (s₁.rotateHead gid (s.ctx.guests gid).dqueuesHead) s') :
    Turned gid (n + 1) s s' := by
  obtain ⟨k, hk, hturned⟩ := ht.turned
  refine ⟨fun g hg => ?_, k + 1, Nat.succ_le_succ hk, ?_⟩
  · rw [ht.others g hg]
    unfold PollCtx.rotateHead
    rw [FastCtx.setGuest_ne _ hg, hsame.ctx]
  · rw [hturned, Function.iterate_succ_apply, rotateHead_guest hsame]

/-- **The rounds over the queues hand over what is due in them**, as far as
there is room. -/
theorem queueRounds_due (gid rounds : Nat) (l : DeqLoop W ε) :
    EndsAs (dueWalk h l.s (l.s.windowMb w) ((l.s.dueRounds gid rounds).take (w.num - l.ndeq))
        l.s.world l.ntx)
      (queueRounds h w gid rounds l)
      (fun l' => Took l ((l.s.dueRounds gid rounds).take (w.num - l.ndeq)) l' ∧
        Turned gid rounds l.s l'.s ∧ l'.s.budgets = l.s.budgets)
      (fun l' => Static l.s l'.s ∧ l'.s.budgets = l.s.budgets ∧
        ∃ q ∈ visitOrder rounds (l.s.ctx.guests gid), l'.s.queued gid q ≠ []) := by
  induction rounds generalizing l with
  | zero =>
    unfold PollCtx.dueRounds visitOrder drained queueRounds
    rw [List.map_nil, List.take_nil]
    exact ⟨l, rfl, rfl, rfl, .refl l, .refl gid 0 l.s, rfl⟩
  | succ rounds ih =>
    unfold queueRounds
    by_cases hlt : l.ndeq < w.num
    · rw [if_pos hlt, dueRounds_succ, List.take_append, List.length_map, ← List.map_take]
      refine EndsAs.seq (drainQueue_due gid (l.s.ctx.guests gid).dqueuesHead _ l) ?_ ?_
      · intro l' ⟨hsame, hstatic, hne⟩
        exact ⟨hstatic, hsame.budgets, _, List.mem_cons_self, hne⟩
      intro l₁ ⟨ht, hsame⟩
      have hturn : Took l₁ [] { l₁ with
          s := l₁.s.rotateHead gid (l.s.ctx.guests gid).dqueuesHead } :=
        ⟨.rotateHead .., rfl, rfl, fun _ _ => (List.append_nil _).symm, fun _ _ => rfl⟩
      have hround := ht.trans hturn
      -- the other rounds start behind the rotation
      have hrest := ih { l₁ with s := l₁.s.rotateHead gid (l.s.ctx.guests gid).dqueuesHead }
      dsimp only at hrest
      rw [dueRounds_next ht hsame, dueWalk_congr hround.static,
        windowMb_congr hround.cache] at hrest
      refine hrest.mono ?_ ?_
      · intro l' ⟨ht', hturned, hbudgets⟩
        refine ⟨?_, hturned.succ hsame, hbudgets.trans hsame.budgets⟩
        have hall := hround.trans ht'
        rwa [List.append_nil] at hall
      · intro l' ⟨hstatic, hbudgets, q, hq, hne⟩
        refine ⟨hround.static.trans hstatic, hbudgets.trans hsame.budgets, q, ?_, hne⟩
        rw [rotateHead_guest hsame] at hq
        exact List.mem_cons_of_mem _ hq
    · rw [if_neg hlt, Nat.sub_eq_zero_of_le (Nat.not_lt.mp hlt), List.take_zero]
      exact ⟨l, rfl, rfl, rfl, .refl l, .refl gid _ l.s, rfl⟩

/-! ## The guests -/

theorem takesTurn_iff {s : PollCtx W ε} {gid : Nat} :
    s.takesTurn gid = true ↔
      (s.ctx.guests gid).dqueuesHead ≠ protoqIdInvalid ∧ s.outOfBudget gid = false := by
  unfold PollCtx.takesTurn
  simp

theorem dueGuest_turn {s : PollCtx W ε} {gid : Nat} (hturn : s.takesTurn gid = true) :
    dueGuest s gid = s.dueRounds gid (s.ctx.guests gid).ndqueues := by
  unfold dueGuest
  rw [if_pos hturn]
  rfl

theorem dueGuest_idle {s : PollCtx W ε} {gid : Nat} (hturn : s.takesTurn gid = false) :
    dueGuest s gid = [] := by
  unfold dueGuest
  rw [if_neg (by simp [hturn])]

/-- A guest that is not out of budget, and has a queue with an entry among
those it has enabled, after a poll stopped. -/
def StuckAt (s s' : PollCtx W ε) (gid : Nat) : Prop :=
  s.takesTurn gid = true ∧ s'.budgets gid = s.budgets gid ∧
    ∃ q ∈ visitOrder (s.ctx.guests gid).ndqueues (s.ctx.guests gid), s'.queued gid q ≠ []

/-- What a poll of one guest leaves. -/
structure GuestPolled (gid : Nat) (ds : List (Due ε)) (l l' : DeqLoop W ε) : Prop where
  took : Took l ds l'
  turned : Turned gid (l.s.ctx.guests gid).ndqueues l.s l'.s
  budgets : ∀ g, g ≠ gid → l'.s.budgets g = l.s.budgets g
  idle : l.s.takesTurn gid = false → l'.s.budgets = l.s.budgets

/-- A guest without a turn is left alone. -/
theorem queuesPollGuest_idle {gid : Nat} {l : DeqLoop W ε} (hturn : l.s.takesTurn gid = false) :
    queuesPollGuest h w gid l = some (true, l) := by
  unfold queuesPollGuest
  dsimp only
  by_cases hhead : (l.s.ctx.guests gid).dqueuesHead = protoqIdInvalid
  · rw [if_pos hhead]
  · have hout : l.s.outOfBudget gid = true := by
      by_contra hout
      exact absurd (takesTurn_iff.mpr ⟨hhead, Bool.eq_false_iff.mpr hout⟩) (by simp [hturn])
    rw [if_neg hhead, if_pos hout]

/-- The budget of a guest is charged for its turn. -/
theorem GuestPolled.charged {gid : Nat} {ds : List (Due ε)} {l l' : DeqLoop W ε}
    (ht : Took l ds l') (hturned : Turned gid (l.s.ctx.guests gid).ndqueues l.s l'.s)
    (hbudgets : l'.s.budgets = l.s.budgets) (hturn : l.s.takesTurn gid = true) (cyc : UInt64) :
    GuestPolled gid ds l { l' with s := l'.s.charge gid cyc } where
  took := ⟨⟨ht.static.mode, ht.static.iso, ht.static.count, ht.static.guest⟩, ht.cache, ht.ndeq,
    ht.handed, ht.queued⟩
  turned := ⟨hturned.others, hturned.turned⟩
  budgets := fun g hg => (if_neg hg).trans (congrFun hbudgets g)
  idle := fun hidle => absurd hturn (by simp [hidle])

/-- **A guest hands over what is due of it**, as far as there is room. -/
theorem queuesPollGuest_due (gid : Nat) (l : DeqLoop W ε) :
    EndsAs (dueWalk h l.s (l.s.windowMb w) ((dueGuest l.s gid).take (w.num - l.ndeq))
        l.s.world l.ntx)
      (queuesPollGuest h w gid l)
      (GuestPolled gid ((dueGuest l.s gid).take (w.num - l.ndeq)) l)
      (fun l' => Static l.s l'.s ∧ StuckAt l.s l'.s gid) := by
  cases hturn : l.s.takesTurn gid with
  | false =>
    rw [dueGuest_idle hturn, queuesPollGuest_idle hturn, List.take_nil]
    exact ⟨l, rfl, rfl, rfl, .refl l, .refl gid _ l.s, fun _ _ => rfl, fun _ => rfl⟩
  | true =>
    obtain ⟨hhead, hout⟩ := takesTurn_iff.mp hturn
    have hrounds := queueRounds_due (h := h) (w := w) gid (l.s.ctx.guests gid).ndqueues l
    rw [dueGuest_turn hturn]
    unfold queuesPollGuest
    rw [if_neg hhead, if_neg (by simp [hout])]
    cases he : dueWalk h l.s (l.s.windowMb w)
        ((l.s.dueRounds gid (l.s.ctx.guests gid).ndqueues).take (w.num - l.ndeq))
        l.s.world l.ntx with
    | done wd ntx =>
      rw [he] at hrounds
      obtain ⟨l', hres, hw, hn, ht, hturned, hbudgets⟩ := hrounds
      rw [hres]
      dsimp only
      split
      · exact ⟨_, rfl, hw, hn, .charged ht hturned hbudgets hturn _⟩
      · exact ⟨_, rfl, hw, hn, ht, hturned, fun g _ => congrFun hbudgets g, fun _ => hbudgets⟩
    | bad =>
      rw [he] at hrounds
      obtain ⟨l', hres, hstatic, hbudgets, q, hq, hne⟩ := hrounds
      rw [hres]
      exact ⟨l', rfl, hstatic, hturn, congrFun hbudgets gid, q, hq, hne⟩
    | crash =>
      rw [he] at hrounds
      have hres : queueRounds h w gid (l.s.ctx.guests gid).ndqueues l = none := hrounds
      rw [hres]
      exact rfl

/-! ## A poll -/

/-- What the guests hand over is due of a guest where the guest, its budget and
its queues are the same. -/
theorem dueGuest_congr {s s' : PollCtx W ε} {gid : Nat} (hiso : s'.perfIso = s.perfIso)
    (hguest : s'.ctx.guests gid = s.ctx.guests gid) (hbudget : s'.budgets gid = s.budgets gid)
    (hqueued : s'.queued gid = s.queued gid) :
    s'.takesTurn gid = s.takesTurn gid ∧ dueGuest s' gid = dueGuest s gid := by
  have hturn : s'.takesTurn gid = s.takesTurn gid := by
    unfold PollCtx.takesTurn
    rw [hguest, PollCtx.outOfBudget_congr hiso hbudget]
  refine ⟨hturn, ?_⟩
  unfold dueGuest
  rw [hturn, hguest, hqueued]

theorem dueGuest_gid {s : PollCtx W ε} {gid : Nat} {d : Due ε} (hd : d ∈ dueGuest s gid) :
    d.gid = gid := by
  unfold dueGuest at hd
  split at hd
  · obtain ⟨e, -, rfl⟩ := List.mem_map.mp hd
    rfl
  · cases hd

theorem ofQueue_ne {ds : List (Due ε)} {g q : Nat} (hd : ∀ d ∈ ds, d.gid ≠ g) :
    ofQueue ds g q = [] := by
  unfold ofQueue
  refine List.filterMap_eq_nil_iff.mpr fun d hmem => if_neg fun h => hd d hmem h.1

/-- The queues of the other guests are as they were. -/
theorem GuestPolled.queued {gid n : Nat} {l l' : DeqLoop W ε}
    (hp : GuestPolled gid ((dueGuest l.s gid).take n) l l') {g : Nat} (hg : g ≠ gid) :
    l'.s.queued g = l.s.queued g := by
  funext q
  have hq := hp.took.queued g q
  rw [ofQueue_ne fun d hd => fun heq => hg (heq.symm.trans (dueGuest_gid (List.mem_of_mem_take hd)))]
    at hq
  exact hq.symm

/-- What is due of another guest stays due. -/
theorem GuestPolled.due {gid n : Nat} {l l' : DeqLoop W ε}
    (hp : GuestPolled gid ((dueGuest l.s gid).take n) l l') {g : Nat} (hg : g ≠ gid) :
    l'.s.takesTurn g = l.s.takesTurn g ∧ dueGuest l'.s g = dueGuest l.s g :=
  dueGuest_congr hp.took.static.iso (hp.turned.others g hg) (hp.budgets g hg) (hp.queued hg)

/-- What a poll of some guests leaves. -/
structure GuestsPolled (gids : List Nat) (ds : List (Due ε)) (l l' : DeqLoop W ε) : Prop where
  took : Took l ds l'
  turned : ∀ g, ∃ k, k ≤ (l.s.ctx.guests g).ndqueues ∧
    l'.s.ctx.guests g = GuestFast.rotateHead^[k] (l.s.ctx.guests g)
  others : ∀ g, g ∉ gids → l'.s.ctx.guests g = l.s.ctx.guests g ∧
    l'.s.budgets g = l.s.budgets g
  idle : ∀ g, l.s.outOfBudget g = true → l'.s.budgets g = l.s.budgets g

theorem GuestsPolled.refl (gids : List Nat) (l : DeqLoop W ε) : GuestsPolled gids [] l l :=
  ⟨.refl l, fun _ => ⟨0, Nat.zero_le _, rfl⟩, fun _ _ => ⟨rfl, rfl⟩, fun _ _ => rfl⟩

/-- A guest, and those behind it. -/
theorem GuestsPolled.cons {gid n : Nat} {gids : List Nat} {ds : List (Due ε)}
    {l l₁ l' : DeqLoop W ε} (hgid : gid ∉ gids)
    (h₁ : GuestPolled gid ((dueGuest l.s gid).take n) l l₁) (h₂ : GuestsPolled gids ds l₁ l') :
    GuestsPolled (gid :: gids) ((dueGuest l.s gid).take n ++ ds) l l' := by
  refine ⟨h₁.took.trans h₂.took, fun g => ?_, fun g hg => ?_, fun g hout => ?_⟩
  · by_cases hg : g = gid
    · subst hg
      obtain ⟨k, hk, hturned⟩ := h₁.turned.turned
      exact ⟨k, hk, (h₂.others g hgid).1.trans hturned⟩
    · obtain ⟨k, hk, hturned⟩ := h₂.turned g
      rw [h₁.turned.others g hg] at hk hturned
      exact ⟨k, hk, hturned⟩
  · have hne : g ≠ gid := fun heq => hg (heq ▸ List.mem_cons_self)
    obtain ⟨hctx, hbudget⟩ := h₂.others g fun hmem => hg (List.mem_cons_of_mem _ hmem)
    exact ⟨hctx.trans (h₁.turned.others g hne), hbudget.trans (h₁.budgets g hne)⟩
  · have hbudget : l₁.s.budgets g = l.s.budgets g := by
      by_cases hg : g = gid
      · subst hg
        refine congrFun (h₁.idle ?_) g
        exact Bool.eq_false_iff.mpr fun hturn => absurd (takesTurn_iff.mp hturn).2 (by simp [hout])
      · exact h₁.budgets g hg
    have hout' : l₁.s.outOfBudget g = true := by
      rw [PollCtx.outOfBudget_congr h₁.took.static.iso hbudget]
      exact hout
    exact (h₂.idle g hout').trans hbudget

/-- The result of the loop over the guests, without the last one that had an
entry. -/
def guestsResult (res : Option (Bool × DeqLoop W ε × Option Nat)) : Option (Bool × DeqLoop W ε) :=
  res.map fun r => (r.1, r.2.1)

theorem queuesGuests_cons {gid : Nat} {gids : List Nat} {l : DeqLoop W ε} {last : Option Nat}
    (hlt : l.ndeq < w.num) :
    guestsResult (queuesGuests h w (gid :: gids) l last) =
      match queuesPollGuest h w gid l with
      | none => none
      | some (false, l') => some (false, l')
      | some (true, l') => guestsResult
          (queuesGuests h w gids l' (if l.ndeq < l'.ndeq then some gid else last)) := by
  conv_lhs => unfold queuesGuests
  rw [if_pos hlt]
  cases queuesPollGuest h w gid l with
  | none => rfl
  | some r =>
    obtain ⟨ok, l'⟩ := r
    cases ok with
    | false => rfl
    | true => rfl

/-- **The guests hand over what is due of them**, as far as there is room. -/
theorem queuesGuests_due (gids : List Nat) (hnodup : gids.Nodup) (l : DeqLoop W ε)
    (last : Option Nat) :
    EndsAs (dueWalk h l.s (l.s.windowMb w) ((dueGuests l.s gids).take (w.num - l.ndeq))
        l.s.world l.ntx)
      (guestsResult (queuesGuests h w gids l last))
      (GuestsPolled gids ((dueGuests l.s gids).take (w.num - l.ndeq)) l)
      (fun l' => Static l.s l'.s ∧ ∃ gid ∈ gids, StuckAt l.s l'.s gid) := by
  induction gids generalizing l last with
  | nil =>
    unfold dueGuests queuesGuests
    rw [List.flatMap_nil, List.take_nil]
    exact ⟨l, rfl, rfl, rfl, .refl [] l⟩
  | cons gid gids ih =>
    obtain ⟨hgid, hnodup⟩ := List.nodup_cons.mp hnodup
    by_cases hlt : l.ndeq < w.num
    · have hsplit : (dueGuests l.s (gid :: gids)).take (w.num - l.ndeq) =
          (dueGuest l.s gid).take (w.num - l.ndeq) ++
            (dueGuests l.s gids).take (w.num - l.ndeq - (dueGuest l.s gid).length) := by
        unfold dueGuests
        rw [List.flatMap_cons, List.take_append]
      rw [queuesGuests_cons hlt, hsplit]
      refine EndsAs.seq (queuesPollGuest_due gid l)
        (fun l' ⟨hstatic, hstuck⟩ => ⟨hstatic, gid, List.mem_cons_self, hstuck⟩) ?_
      intro l₁ hp
      have hne : ∀ g ∈ gids, g ≠ gid := fun g hg heq => hgid (heq ▸ hg)
      -- the guests behind it have the same entries due
      have hdue : dueGuests l₁.s gids = dueGuests l.s gids :=
        List.flatMap_congr fun g hg => (hp.due (hne g hg)).2
      have hndeq := hp.took.ndeq
      rw [List.length_take] at hndeq
      have hroom : w.num - l₁.ndeq = w.num - l.ndeq - (dueGuest l.s gid).length := by omega
      have hrest := ih hnodup l₁ (if l.ndeq < l₁.ndeq then some gid else last)
      rw [hdue, hroom, dueWalk_congr hp.took.static, windowMb_congr hp.took.cache] at hrest
      refine hrest.mono (fun l' hp' => .cons hgid hp hp') ?_
      intro l' ⟨hstatic, g, hg, hturn, hbudget, q, hq, hq'⟩
      rw [(hp.due (hne g hg)).1] at hturn
      rw [hp.turned.others g (hne g hg)] at hq
      exact ⟨hp.took.static.trans hstatic, g, List.mem_cons_of_mem _ hg, hturn,
        hbudget.trans (hp.budgets g (hne g hg)), q, hq, hq'⟩
    · unfold queuesGuests
      rw [if_neg hlt, Nat.sub_eq_zero_of_le (Nat.not_lt.mp hlt), List.take_zero]
      exact ⟨l, rfl, rfl, rfl, .refl _ l⟩

/-- What a poll leaves that handed over the entries `ds`. -/
structure Polled (s : PollCtx W ε) (ds : List (Due ε)) (s' : PollCtx W ε) : Prop where
  static : Static s s'
  handed : ∀ g q, s'.handed g q = s.handed g q ++ ofQueueId ds g q
  queued : ∀ g q, s.queued g q = ofQueue ds g q ++ s'.queued g q
  turned : ∀ g, ∃ k, k ≤ (s.ctx.guests g).ndqueues ∧
    s'.ctx.guests g = GuestFast.rotateHead^[k] (s.ctx.guests g)
  idle : ∀ g, s.outOfBudget g = true → s'.budgets g = s.budgets g

theorem Polled.nothing {s s' : PollCtx W ε} (hstatic : Static s s') (hguests : s'.ctx = s.ctx)
    (hbudgets : s'.budgets = s.budgets) (hcalls : s'.calls = s.calls)
    (hqueued : s'.queued = s.queued) : Polled s [] s' where
  static := hstatic
  handed := fun g q => by
    unfold PollCtx.handed ofQueueId
    rw [hcalls, List.filterMap_nil, List.append_nil]
  queued := fun g q => by
    rw [hqueued]
    rfl
  turned := fun g => ⟨0, Nat.zero_le _, by rw [hguests]; rfl⟩
  idle := fun g _ => congrFun hbudgets g

/-- The window of a poll. -/
def PollCtx.pollWindow (s : PollCtx W ε) (io : PollIo) : TxWindow :=
  (txcacheAlloc s.mbufs io.grants (s.batch fastDeqBatchSize)).1

/-- What a poll does behind its loops. -/
theorem Polled.finish {s : PollCtx W ε} {mbufs : Mbufs} {gids : List Nat} {ds : List (Due ε)}
    {l : DeqLoop W ε} (hp : GuestsPolled gids ds { s := { s with mbufs }, ntx := 0, ndeq := 0 } l)
    (last : Option Nat) (sent num : Nat) :
    Polled s ds (((l.s.queuesCursor last).txflush sent).unalloc num) := by
  have hst := hp.took.static
  cases last with
  | none =>
    exact ⟨⟨hst.mode, hst.iso, hst.count, hst.guest⟩, hp.took.handed, hp.took.queued, hp.turned,
      hp.idle⟩
  | some gid =>
    exact ⟨⟨hst.mode, hst.iso, hst.count, hst.guest⟩, hp.took.handed, hp.took.queued, hp.turned,
      hp.idle⟩

theorem guestsResult_some {res : Option (Bool × DeqLoop W ε × Option Nat)} {ok : Bool}
    {l : DeqLoop W ε} (hres : guestsResult res = some (ok, l)) :
    ∃ last, res = some (ok, l, last) := by
  cases res with
  | none => cases hres
  | some r =>
    obtain ⟨ok', l', last⟩ := r
    cases hres
    exact ⟨last, rfl⟩

theorem queuesStart_lt {s : PollCtx W ε} (hn : s.ctx.nGuests ≠ 0) :
    s.queuesStart < s.ctx.nGuests := by
  unfold PollCtx.queuesStart
  split
  · exact Nat.pos_of_ne_zero hn
  · next hlt => exact Nat.not_le.mp hlt

/-- **What a poll hands over.** If the entries that are due are all answered,
none negatively, the poll returns their number, and they were handed over and
dequeued; if one is answered negatively it returns -1 and leaves a queue with
entries of a guest that has budget. -/
theorem fastQueuesPoll_due (h : Handlers W ε) (s : PollCtx W ε) (io : PollIo) :
    match duePollEnd h s io with
    | .done _ _ => ∃ s', fastQueuesPoll h s io =
          some (((duePoll s (s.pollWindow io)).length : Int), s') ∧
        Polled s (duePoll s (s.pollWindow io)) s'
    | .bad => ∃ s', fastQueuesPoll h s io = some (-1, s') ∧ Static s s' ∧
        ∃ gid, gid < s.ctx.nGuests ∧ StuckAt s s' gid
    | .crash => fastQueuesPoll h s io = none := by
  obtain ⟨win, mbufs, halloc⟩ : ∃ win mbufs,
      txcacheAlloc s.mbufs io.grants (s.batch fastDeqBatchSize) = (win, mbufs) := ⟨_, _, rfl⟩
  have hwin : s.pollWindow io = win := congrArg Prod.fst halloc
  have hend : duePollEnd h s io = dueWalk h s (({ s with mbufs } : PollCtx W ε).windowMb win)
      (duePoll s win) s.world 0 := by
    unfold duePollEnd
    rw [halloc]
  have hstatic : Static s { s with mbufs } := ⟨rfl, rfl, rfl, fun g => .refl (s.ctx.guests g)⟩
  rw [hwin, hend]
  unfold fastQueuesPoll
  by_cases hn : s.ctx.nGuests = 0
  · have hdue : duePoll s win = [] := by
      unfold duePoll guestOrder
      rw [hn]
      exact List.take_nil
    rw [if_pos hn, hdue]
    exact ⟨s, rfl, .nothing (.refl s) rfl rfl rfl rfl⟩
  rw [if_neg hn, halloc]
  dsimp only
  by_cases hnum : win.num = 0
  · have hdue : duePoll s win = [] := by
      unfold duePoll
      rw [hnum, List.take_zero]
    rw [if_pos hnum, hdue]
    exact ⟨_, rfl, .nothing hstatic rfl rfl rfl rfl⟩
  rw [if_neg hnum]
  -- the loop over the guests starts with the mbufs allocated, and hands over what is due
  have hloop : EndsAs (dueWalk h s (({ s with mbufs } : PollCtx W ε).windowMb win)
        (duePoll s win) s.world 0)
      (guestsResult (queuesGuests h win (guestOrder s.ctx.nGuests s.queuesStart)
        { s := { s with mbufs }, ntx := 0, ndeq := 0 } none))
      (GuestsPolled (guestOrder s.ctx.nGuests s.queuesStart) (duePoll s win)
        { s := { s with mbufs }, ntx := 0, ndeq := 0 })
      (fun l' => Static s l'.s ∧ ∃ gid ∈ guestOrder s.ctx.nGuests s.queuesStart,
        StuckAt s l'.s gid) := by
    have hdue := queuesGuests_due (h := h) (w := win) _ (nodup_guestOrder (queuesStart_lt hn))
      { s := { s with mbufs }, ntx := 0, ndeq := 0 } none
    rw [dueWalk_congr hstatic] at hdue
    exact hdue.mono (fun l' hp => hp) fun l' hbad => ⟨hstatic.trans hbad.1, hbad.2⟩
  cases he : dueWalk h s (({ s with mbufs } : PollCtx W ε).windowMb win) (duePoll s win)
      s.world 0 with
  | done wd ntx =>
    rw [he] at hloop
    obtain ⟨l, hl, -, -, hp⟩ := hloop
    obtain ⟨last, hres⟩ := guestsResult_some hl
    have hndeq : l.ndeq = (duePoll s win).length := hp.took.ndeq.trans (Nat.zero_add _)
    rw [hres, ← hndeq]
    exact ⟨_, rfl, .finish hp last io.sent _⟩
  | bad =>
    rw [he] at hloop
    obtain ⟨l, hl, hst, gid, hgid, hstuck⟩ := hloop
    obtain ⟨last, hres⟩ := guestsResult_some hl
    rw [hres]
    exact ⟨l.s, rfl, hst, gid, mem_guestOrder hgid, hstuck⟩
  | crash =>
    rw [he] at hloop
    have hres : guestsResult (queuesGuests h win (guestOrder s.ctx.nGuests s.queuesStart)
      { s := { s with mbufs }, ntx := 0, ndeq := 0 } none) = none := hloop
    rw [Option.map_eq_none_iff.mp hres]

end

end Chamelio.Fast.Poll
