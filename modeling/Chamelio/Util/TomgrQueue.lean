import Mathlib.Data.Finset.Card
import Mathlib.Data.Finset.Range
import Mathlib.Data.List.Perm.Basic
import Chamelio.Util.TomgrHeap

/-!
# The timeout manager as a priority queue (`lib/utils/tomgr/tomgr.c`)

Every sequence of calls. Each successful insert gets a number and a ticket
with the slot it was given and what it was given for; the ticket is live until
a cancel or a pop takes it. The manager behaves as the queue of its live
tickets: the heap is in order, peek and pop show a live ticket with the least
timeout, with its own contents, and every ticket is in exactly one place.

Inserts fail early in one case. `tomgr_cancel` of the entry at the end of the
heap moves that entry onto itself and writes its `heap_idx` a second time, so
the slot stays marked as used although no entry is in it. `lost` counts these
slots: an insert fails exactly when live and lost slots are all there are.

Mirroring notes: an entry pointer is the index of the entry. The tickets are
no part of the program; the calls are.
-/

namespace Chamelio.Util

namespace Tomgr

variable {δ : Type}

/-- A call of the manager's interface. -/
inductive TomgrCall (δ : Type) where
  | insert (type : ToType) (timeout : UInt64) (data : δ)
  | cancel (e : Nat)
  | peek
  | pop

/-- A successful insert: the entry it returned, and what it was given. -/
structure Ticket (δ : Type) where
  number : Nat
  slot : Nat
  type : ToType
  timeout : UInt64
  data : δ

/-- The manager and where every ticket is. -/
structure TomgrRun (δ : Type) where
  mgr : Tomgr δ
  live : List (Ticket δ)
  popped : List (Ticket δ)
  cancelled : List (Ticket δ)
  lost : List Nat
  issued : Nat

/-- After `tomgr_init`. -/
def tomgrStart (mem : Tomgr δ) : TomgrRun δ :=
  { mgr := tomgrInit mem, live := [], popped := [], cancelled := [], lost := [], issued := 0 }

/-- The live tickets of entry `e`. -/
def TomgrRun.at (s : TomgrRun δ) (e : Nat) : List (Ticket δ) :=
  s.live.filter fun t => decide (t.slot = e)

/-- The live tickets of the other entries. -/
def TomgrRun.except (s : TomgrRun δ) (e : Nat) : List (Ticket δ) :=
  s.live.filter fun t => !decide (t.slot = e)

/-- One call. -/
def tomgrCall (s : TomgrRun δ) : TomgrCall δ → TomgrRun δ
  | .insert type timeout data =>
    match s.mgr.tomgrInsert type timeout data with
    | (m, none) => { s with mgr := m }
    | (m, some e) =>
      { s with
        mgr := m
        live := ⟨s.issued, e, type, timeout, data⟩ :: s.live
        issued := s.issued + 1 }
  | .cancel e =>
    match s.mgr.tomgrCancel e with
    | (m, false) => { s with mgr := m }
    | (m, true) =>
      { s with
        mgr := m
        live := s.except e
        cancelled := s.at e ++ s.cancelled
        lost := if s.mgr.LosesSlot e then e :: s.lost else s.lost }
  | .peek => s
  | .pop =>
    match s.mgr.tomgrPop with
    | (m, none) => { s with mgr := m }
    | (m, some e) =>
      { s with
        mgr := m
        live := s.except e
        popped := s.at e ++ s.popped }

def tomgrRun (s : TomgrRun δ) (calls : List (TomgrCall δ)) : TomgrRun δ :=
  calls.foldl tomgrCall s

/-- The entry of the ticket holds what the ticket says. -/
structure Shows (m : Tomgr δ) (t : Ticket δ) : Prop where
  type : (m.entries t.slot).type = t.type
  timeout : (m.entries t.slot).timeout = t.timeout
  data : (m.entries t.slot).data = t.data

/-- A live ticket with the least timeout. -/
structure TomgrRun.Earliest (s : TomgrRun δ) (t : Ticket δ) : Prop where
  live : t ∈ s.live
  least : ∀ t' ∈ s.live, t.timeout ≤ t'.timeout

/-- **What a priority queue of timeouts promises** of a state. -/
structure TomgrRun.PriorityQueue (s : TomgrRun δ) : Prop where
  ordered : s.mgr.Ordered
  peek : s.mgr.tomgrPeek = none ∧ s.live = [] ∨
    ∃ t, s.Earliest t ∧ s.mgr.tomgrPeek = some t.slot ∧ s.mgr.Shows t
  pop : (s.mgr.tomgrPop).2 = none ∧ s.live = [] ∨
    ∃ t, s.Earliest t ∧ (s.mgr.tomgrPop).2 = some t.slot ∧ (s.mgr.tomgrPop).1.Shows t ∧
      (tomgrCall s .pop).popped = t :: s.popped
  once : ((s.live ++ s.popped ++ s.cancelled).map Ticket.number).Perm (List.range s.issued)
  drain : (tomgrRun s (List.replicate s.live.length .pop)).live = []
  room : ∀ type timeout data, (s.mgr.tomgrInsert type timeout data).2 = none →
    s.live.length = tomgrSize

/-! ## Live tickets and live entries -/

/-- The live tickets are the live entries, the lost slots are not free, and
all other slots are. -/
structure TomgrRun.Inv (s : TomgrRun δ) : Prop where
  wf : s.mgr.Wf
  ordered : s.mgr.Ordered
  slots : (s.live.map Ticket.slot).Nodup
  entries : ∀ e, s.mgr.Live e ↔ ∃ t ∈ s.live, t.slot = e
  shows : ∀ t ∈ s.live, s.mgr.Shows t
  lostNodup : s.lost.Nodup
  lostDead : ∀ e ∈ s.lost, e < tomgrSize ∧ ¬ s.mgr.Live e
  free : ∀ e, e < tomgrSize →
    ((s.mgr.entries e).heapIdx = toInvalid ↔ ¬ s.mgr.Live e ∧ e ∉ s.lost)
  once : ((s.live ++ s.popped ++ s.cancelled).map Ticket.number).Perm (List.range s.issued)

/-- No two live tickets share an entry. -/
theorem filter_slot {l : List (Ticket δ)} (hnodup : (l.map Ticket.slot).Nodup) {t : Ticket δ}
    (ht : t ∈ l) : l.filter (fun x => decide (x.slot = t.slot)) = [t] := by
  induction l with
  | nil => cases ht
  | cons x l ih =>
    rw [List.map_cons, List.nodup_cons] at hnodup
    rcases List.mem_cons.mp ht with rfl | ht
    · rw [List.filter_cons_of_pos (by simp), List.filter_eq_nil_iff.mpr]
      intro y hy hslot
      exact hnodup.1 (by rw [← of_decide_eq_true hslot]; exact List.mem_map_of_mem hy)
    · have hne : x.slot ≠ t.slot := fun h => hnodup.1 (h ▸ List.mem_map_of_mem ht)
      rw [List.filter_cons_of_neg (by simpa using hne)]
      exact ih hnodup.2 ht

theorem TomgrRun.Inv.at_eq {s : TomgrRun δ} (h : s.Inv) {t : Ticket δ} (ht : t ∈ s.live) :
    s.at t.slot = [t] :=
  filter_slot h.slots ht

theorem mem_except {s : TomgrRun δ} {e : Nat} {t : Ticket δ} :
    t ∈ s.except e ↔ t ∈ s.live ∧ t.slot ≠ e := by
  simp [TomgrRun.except]

theorem at_append_except (s : TomgrRun δ) (e : Nat) : (s.at e ++ s.except e).Perm s.live :=
  List.filter_append_perm _ s.live

theorem TomgrRun.Inv.length_except {s : TomgrRun δ} (h : s.Inv) {t : Ticket δ} (ht : t ∈ s.live) :
    (s.except t.slot).length + 1 = s.live.length := by
  have hperm := (at_append_except s t.slot).length_eq
  rw [h.at_eq ht, List.length_append, List.length_singleton] at hperm
  omega

theorem tomgrStart_inv (mem : Tomgr δ) : (tomgrStart mem).Inv := by
  have hdead : ∀ e, ¬ (tomgrInit mem).Live e := by
    rintro e ⟨p, hp, -⟩
    exact absurd hp (Nat.not_lt_zero p)
  refine ⟨tomgrInit_wf mem, fun p _ hp => absurd hp (Nat.not_lt_zero p), List.nodup_nil,
    fun e => ⟨fun h => absurd h (hdead e), ?_⟩, ?_, List.nodup_nil, ?_, fun e _ => ?_,
    List.Perm.refl _⟩
  · simp [tomgrStart]
  · simp [tomgrStart]
  · simp [tomgrStart]
  · exact ⟨fun _ => ⟨hdead e, by simp [tomgrStart]⟩, fun _ => rfl⟩

/-- Taking an entry out of the heap and its ticket out of the queue. -/
theorem TomgrRun.Inv.remove {s : TomgrRun δ} (h : s.Inv) {m : Tomgr δ} {e : Nat}
    (has : RemovedAs s.mgr m e) (hlive : s.mgr.Live e) {popped cancelled : List (Ticket δ)}
    {lost : List Nat}
    (hlost : (m.entries e).heapIdx = toInvalid ∧ lost = s.lost ∨
      (m.entries e).heapIdx ≠ toInvalid ∧ lost = e :: s.lost)
    (honce : (popped ++ cancelled).Perm (s.at e ++ (s.popped ++ s.cancelled))) :
    TomgrRun.Inv { s with
      mgr := m, live := s.except e, popped := popped, cancelled := cancelled, lost := lost } := by
  have hlt : e < tomgrSize := by
    obtain ⟨p, hp, rfl⟩ := hlive
    exact h.wf.bound p hp
  have hnot : ¬ m.Live e := fun hl => ((has.removed.live e).mp hl).2 rfl
  have hfresh : e ∉ s.lost := fun he => (h.lostDead e he).2 hlive
  refine ⟨has.removed.wf, has.ordered, ?_, fun x => ?_, fun t ht => ?_, ?_, fun x hx => ?_,
    fun x hx => ?_, ?_⟩
  · exact ((List.filter_sublist).map Ticket.slot).nodup h.slots
  · rw [has.removed.live, h.entries]
    constructor
    · rintro ⟨⟨t, ht, rfl⟩, hne⟩
      exact ⟨t, mem_except.mpr ⟨ht, hne⟩, rfl⟩
    · rintro ⟨t, ht, rfl⟩
      obtain ⟨ht, hne⟩ := mem_except.mp ht
      exact ⟨⟨t, ht, rfl⟩, hne⟩
  · have hshow := h.shows t (mem_except.mp ht).1
    exact ⟨(has.quiet.type _).trans hshow.type, (has.quiet.timeout _).trans hshow.timeout,
      (has.quiet.data _).trans hshow.data⟩
  · rcases hlost with ⟨-, rfl⟩ | ⟨-, rfl⟩
    · exact h.lostNodup
    · exact List.nodup_cons.mpr ⟨hfresh, h.lostNodup⟩
  · have hold : ∀ x ∈ s.lost, x < tomgrSize ∧ ¬ m.Live x := fun x hx =>
      ⟨(h.lostDead x hx).1, fun hl => (h.lostDead x hx).2 ((has.removed.live x).mp hl).1⟩
    rcases hlost with ⟨-, rfl⟩ | ⟨-, rfl⟩
    · exact hold x hx
    · rcases List.mem_cons.mp hx with rfl | hx
      · exact ⟨hlt, hnot⟩
      · exact hold x hx
  · by_cases hxe : x = e
    · subst hxe
      rcases hlost with ⟨hinv, rfl⟩ | ⟨hval, rfl⟩
      · exact ⟨fun _ => ⟨hnot, hfresh⟩, fun _ => hinv⟩
      · exact ⟨fun hinv => absurd hinv hval, fun hx => absurd List.mem_cons_self hx.2⟩
    · have hmem : x ∈ lost ↔ x ∈ s.lost := by
        rcases hlost with ⟨-, rfl⟩ | ⟨-, rfl⟩
        · exact Iff.rfl
        · simp [hxe]
      dsimp only
      rw [hmem, has.removed.live]
      by_cases hl : s.mgr.Live x
      · refine ⟨fun hinv => ?_, fun hx => absurd ⟨hl, hxe⟩ hx.1⟩
        obtain ⟨p, hp, hpx⟩ := (has.removed.live x).mpr ⟨hl, hxe⟩
        exact absurd hinv (hpx ▸ has.removed.wf.valid p hp)
      · rw [has.quiet.slot x hl, h.free x hx]
        exact ⟨fun hx => ⟨fun hc => hl hc.1, hx.2⟩, fun hx => ⟨hl, hx.2⟩⟩
  · -- the ticket only changes its place
    refine List.Perm.trans (List.Perm.map _ ?_) h.once
    rw [List.append_assoc, List.append_assoc]
    refine (List.Perm.append_left _ honce).trans ?_
    rw [← List.append_assoc]
    exact (List.perm_append_comm.trans (at_append_except s e)).append_right _

/-- A new entry and its ticket. -/
theorem TomgrRun.Inv.insert {s : TomgrRun δ} (h : s.Inv) {m : Tomgr δ} {type : ToType}
    {timeout : UInt64} {data : δ} {e : Nat}
    (hins : s.mgr.tomgrInsert type timeout data = (m, some e)) :
    TomgrRun.Inv { s with
      mgr := m
      live := ⟨s.issued, e, type, timeout, data⟩ :: s.live
      issued := s.issued + 1 } := by
  have hin := tomgrInsert_some h.wf hins
  have has := tomgrInsert_as h.ordered hins
  have hother : ∀ t ∈ s.live, t.slot ≠ e := fun t ht he =>
    hin.fresh ((h.entries e).mpr ⟨t, ht, he⟩)
  refine ⟨hin.wf, has.ordered, ?_, fun x => ?_, fun t ht => ?_, h.lostNodup, fun x hx => ?_,
    fun x hx => ?_, ?_⟩
  · rw [List.map_cons, List.nodup_cons]
    refine ⟨fun hmem => ?_, h.slots⟩
    obtain ⟨t, ht, hte⟩ := List.mem_map.mp hmem
    exact hother t ht hte
  · rw [hin.live, h.entries]
    constructor
    · rintro (⟨t, ht, rfl⟩ | rfl)
      · exact ⟨t, List.mem_cons_of_mem _ ht, rfl⟩
      · exact ⟨_, List.mem_cons_self, rfl⟩
    · rintro ⟨t, ht, rfl⟩
      rcases List.mem_cons.mp ht with rfl | ht
      · exact .inr rfl
      · exact .inl ⟨t, ht, rfl⟩
  · rcases List.mem_cons.mp ht with rfl | ht
    · exact ⟨has.type, has.timeout, has.data⟩
    · obtain ⟨htype, hto, hdata⟩ := has.others t.slot (hother t ht)
      have hshow := h.shows t ht
      exact ⟨htype.trans hshow.type, hto.trans hshow.timeout, hdata.trans hshow.data⟩
  · obtain ⟨hlt, hdead⟩ := h.lostDead x hx
    refine ⟨hlt, fun hl => ?_⟩
    rcases (hin.live x).mp hl with hl | rfl
    · exact hdead hl
    · -- a slot that is handed out was free, so it was not lost
      exact ((h.free x hlt).mp has.free).2 hx
  · by_cases hxe : x = e
    · subst hxe
      have hl : m.Live x := (hin.live x).mpr (.inr rfl)
      refine ⟨fun hinv => ?_, fun hx => absurd hl hx.1⟩
      obtain ⟨p, hp, hpx⟩ := hl
      exact absurd hinv (hpx ▸ hin.wf.valid p hp)
    · dsimp only
      rw [hin.live]
      by_cases hl : s.mgr.Live x
      · refine ⟨fun hinv => ?_, fun hx => absurd (.inl hl) hx.1⟩
        obtain ⟨p, hp, hpx⟩ := (hin.live x).mpr (.inl hl)
        exact absurd hinv (hpx ▸ hin.wf.valid p hp)
      · rw [has.slot x hxe hl, h.free x hx]
        exact ⟨fun hx => ⟨fun hc => hc.elim hl hxe, hx.2⟩, fun hx => ⟨hl, hx.2⟩⟩
  · rw [List.range_succ]
    exact (h.once.cons s.issued).trans (List.perm_append_singleton _ _).symm

theorem tomgrPop_none {m m' : Tomgr δ} (h : m.tomgrPop = (m', none)) : m' = m ∧ m.size = 0 := by
  unfold tomgrPop at h
  split at h
  · next h0 => exact ⟨(congrArg Prod.fst h).symm, h0⟩
  · cases h

/-- What a pop that returns something does. -/
theorem tomgrPop_some {m m' : Tomgr δ} (hwf : m.Wf) (hord : m.Ordered) {e : Nat}
    (h : m.tomgrPop = (m', some e)) :
    0 < m.size ∧ (m.heap 0).idx = e ∧ RemovedAs m m' e ∧ (m'.entries e).heapIdx = toInvalid := by
  have hpos : 0 < m.size := by
    apply Nat.pos_of_ne_zero
    intro h0
    unfold tomgrPop at h
    rw [if_pos h0] at h
    cases h
  have hroot : (m.heap 0).idx = e := by
    have := (tomgrPop_removed hwf hpos).1
    rw [h] at this
    exact (Option.some.inj this).symm
  have has := tomgrPop_as hwf hord hpos
  rw [h, hroot] at has
  exact ⟨hpos, hroot, has⟩

/-- One call keeps the invariant. -/
theorem tomgrCall_inv {s : TomgrRun δ} (h : s.Inv) (c : TomgrCall δ) : (tomgrCall s c).Inv := by
  cases c with
  | insert type timeout data =>
    simp only [tomgrCall]
    rcases hins : s.mgr.tomgrInsert type timeout data with ⟨m, _ | e⟩
    · rw [tomgrInsert_none hins]
      exact h
    · exact h.insert hins
  | cancel e =>
    simp only [tomgrCall]
    rcases hcan : s.mgr.tomgrCancel e with ⟨m, _ | _⟩
    · rcases tomgrCancel_cases h.wf e with hc | ⟨-, hc, -⟩
      · rw [hc] at hcan
        obtain rfl : s.mgr = m := congrArg Prod.fst hcan
        exact h
      · rw [hcan] at hc
        cases hc
    · rcases tomgrCancel_cases h.wf e with hc | ⟨hlive, hc, -⟩
      · rw [hc] at hcan
        cases hcan
      · have has := tomgrCancel_as h.wf h.ordered hc
        rw [hcan] at has
        refine h.remove has.1 hlive ?_ ?_
        · by_cases hl : s.mgr.LosesSlot e
          · rw [if_pos hl]
            exact .inr ⟨fun hinv => has.2.mp hinv hl, rfl⟩
          · rw [if_neg hl]
            exact .inl ⟨has.2.mpr hl, rfl⟩
        · rw [← List.append_assoc, ← List.append_assoc]
          exact List.perm_append_comm.append_right _
  | peek => exact h
  | pop =>
    simp only [tomgrCall]
    rcases hpop : s.mgr.tomgrPop with ⟨m, _ | e⟩
    · rw [(tomgrPop_none hpop).1]
      exact h
    · obtain ⟨hpos, hroot, has, hfree⟩ := tomgrPop_some h.wf h.ordered hpop
      refine h.remove has ⟨0, hpos, hroot⟩ (.inl ⟨hfree, rfl⟩) ?_
      rw [List.append_assoc]

theorem tomgrRun_inv {s : TomgrRun δ} (h : s.Inv) (calls : List (TomgrCall δ)) :
    (tomgrRun s calls).Inv := by
  induction calls generalizing s with
  | nil => exact h
  | cons c calls ih => exact ih (tomgrCall_inv h c)

/-! ## The queue of the live tickets -/

theorem TomgrRun.Inv.size_eq {s : TomgrRun δ} (h : s.Inv) : s.mgr.size = s.live.length := by
  have hnodup : ((List.range s.mgr.size).map fun p => (s.mgr.heap p).idx).Nodup := by
    refine List.Nodup.map_on ?_ List.nodup_range
    intro p hp q hq heq
    exact h.wf.inj p q (List.mem_range.mp hp) (List.mem_range.mp hq) heq
  have hperm : ((List.range s.mgr.size).map fun p => (s.mgr.heap p).idx).Perm
      (s.live.map Ticket.slot) := by
    refine (List.perm_ext_iff_of_nodup hnodup h.slots).mpr fun e => ?_
    rw [List.mem_map, List.mem_map, ← h.entries]
    constructor
    · rintro ⟨p, hp, he⟩
      exact ⟨p, List.mem_range.mp hp, he⟩
    · rintro ⟨p, hp, he⟩
      exact ⟨p, List.mem_range.mpr hp, he⟩
  simpa using hperm.length_eq

/-- The ticket of the root is live and has the least timeout. -/
theorem TomgrRun.Inv.earliest {s : TomgrRun δ} (h : s.Inv) (hpos : 0 < s.mgr.size) :
    ∃ t, s.Earliest t ∧ t.slot = (s.mgr.heap 0).idx := by
  obtain ⟨t, ht, hslot⟩ := (h.entries _).mp ⟨0, hpos, rfl⟩
  refine ⟨t, ⟨ht, fun t' ht' => ?_⟩, hslot⟩
  obtain ⟨p, hp, hidx⟩ := (h.entries t'.slot).mpr ⟨t', ht', rfl⟩
  have hroot := h.ordered.root p hp
  have h₀ : (s.mgr.heap 0).timeout = t.timeout := by
    rw [← h.wf.stamp 0 hpos, ← hslot]
    exact (h.shows t ht).timeout
  have h₁ : (s.mgr.heap p).timeout = t'.timeout := by
    rw [← h.wf.stamp p hp, hidx]
    exact (h.shows t' ht').timeout
  unfold key at hroot
  rw [h₀, h₁] at hroot
  exact UInt64.le_iff_toNat_le.mpr hroot

/-- A pop takes exactly one live ticket. -/
theorem TomgrRun.Inv.length_pop {s : TomgrRun δ} (h : s.Inv) :
    (tomgrCall s .pop).live.length = s.live.length - 1 := by
  simp only [tomgrCall]
  rcases hpop : s.mgr.tomgrPop with ⟨m, _ | e⟩
  · have := (tomgrPop_none hpop).2
    have := h.size_eq
    dsimp only
    omega
  · obtain ⟨hpos, hroot, -⟩ := tomgrPop_some h.wf h.ordered hpop
    obtain ⟨t, ht, rfl⟩ := (h.entries e).mp ⟨0, hpos, hroot⟩
    have := h.length_except ht
    dsimp only
    omega

/-- As many pops as there are live tickets return all of them. -/
theorem tomgrRun_drain {s : TomgrRun δ} (h : s.Inv) {n : Nat} (hn : s.live.length ≤ n) :
    (tomgrRun s (List.replicate n .pop)).live = [] := by
  induction n generalizing s with
  | zero => exact List.length_eq_zero_iff.mp (Nat.le_zero.mp hn)
  | succ n ih =>
    rw [List.replicate_succ]
    refine ih (s := tomgrCall s .pop) (tomgrCall_inv h .pop) ?_
    rw [h.length_pop]
    omega

/-- The slots in use: the live tickets' and the lost ones. -/
theorem TomgrRun.Inv.used {s : TomgrRun δ} (h : s.Inv) :
    (s.live.map Ticket.slot ++ s.lost).Nodup ∧
      ∀ e ∈ s.live.map Ticket.slot ++ s.lost, e < tomgrSize := by
  have hlive : ∀ e ∈ s.live.map Ticket.slot, s.mgr.Live e := fun e he => by
    obtain ⟨t, ht, rfl⟩ := List.mem_map.mp he
    exact (h.entries t.slot).mpr ⟨t, ht, rfl⟩
  constructor
  · refine List.nodup_append.mpr ⟨h.slots, h.lostNodup, fun a ha b hb hab => ?_⟩
    exact (h.lostDead b hb).2 (hab ▸ hlive a ha)
  · intro e he
    rcases List.mem_append.mp he with he | he
    · obtain ⟨p, hp, rfl⟩ := hlive e he
      exact h.wf.bound p hp
    · exact (h.lostDead e he).1

/-- A list of different slots names all of them exactly when it has
`TOMGR_SIZE` elements. -/
theorem all_slots_iff {l : List Nat} (hnodup : l.Nodup) (hlt : ∀ e ∈ l, e < tomgrSize) :
    (∀ e, e < tomgrSize → e ∈ l) ↔ l.length = tomgrSize := by
  have hsub : l.toFinset ⊆ Finset.range tomgrSize := fun e he =>
    Finset.mem_range.mpr (hlt e (List.mem_toFinset.mp he))
  have hcard : l.toFinset.card = l.length := List.toFinset_card_of_nodup hnodup
  constructor
  · intro hall
    have heq : l.toFinset = Finset.range tomgrSize :=
      Finset.Subset.antisymm hsub fun e he =>
        List.mem_toFinset.mpr (hall e (Finset.mem_range.mp he))
    rw [← hcard, heq, Finset.card_range]
  · intro hlen e he
    have heq : l.toFinset = Finset.range tomgrSize := by
      apply Finset.eq_of_subset_of_card_le hsub
      rw [Finset.card_range, hcard, hlen]
    exact List.mem_toFinset.mp (heq ▸ Finset.mem_range.mpr he)

theorem TomgrRun.Inv.used_le {s : TomgrRun δ} (h : s.Inv) :
    s.live.length + s.lost.length ≤ tomgrSize := by
  obtain ⟨hnodup, hlt⟩ := h.used
  have hsub : (s.live.map Ticket.slot ++ s.lost).toFinset ⊆ Finset.range tomgrSize := fun e he =>
    Finset.mem_range.mpr (hlt e (List.mem_toFinset.mp he))
  have hcard := Finset.card_le_card hsub
  rw [List.toFinset_card_of_nodup hnodup, Finset.card_range] at hcard
  simpa using hcard

/-- **When an insert fails**: live and lost slots are all there are. -/
theorem TomgrRun.Inv.insert_none_iff {s : TomgrRun δ} (h : s.Inv) (type : ToType)
    (timeout : UInt64) (data : δ) :
    (s.mgr.tomgrInsert type timeout data).2 = none ↔
      s.live.length + s.lost.length = tomgrSize := by
  obtain ⟨hnodup, hlt⟩ := h.used
  have hall := all_slots_iff hnodup hlt
  rw [List.length_append, List.length_map] at hall
  rw [tomgrInsert_none_iff, ← hall]
  have hused : ∀ e, e < tomgrSize → ((s.mgr.entries e).heapIdx ≠ toInvalid ↔
      e ∈ s.live.map Ticket.slot ++ s.lost) := by
    intro e he
    rw [ne_eq, h.free e he, h.entries, List.mem_append, List.mem_map]
    constructor
    · intro hn
      by_cases hl : ∃ t ∈ s.live, t.slot = e
      · exact .inl hl
      · exact .inr (Classical.byContradiction fun hlost => hn ⟨hl, hlost⟩)
    · rintro (hl | hl) ⟨hn, hlost⟩
      · exact hn hl
      · exact hlost hl
  constructor
  · rintro (hfull | hno)
    · have hsize := h.size_eq
      have hle := h.used_le
      exact hall.mpr (by omega)
    · exact fun e he => (hused e he).mp (hno e he)
  · exact fun hall => .inr fun e he => (hused e he).mpr (hall e he)

theorem TomgrRun.Inv.peek {s : TomgrRun δ} (h : s.Inv) :
    s.mgr.tomgrPeek = none ∧ s.live = [] ∨
      ∃ t, s.Earliest t ∧ s.mgr.tomgrPeek = some t.slot ∧ s.mgr.Shows t := by
  have hsize := h.size_eq
  unfold tomgrPeek
  by_cases h0 : s.mgr.size = 0
  · rw [if_pos h0]
    exact .inl ⟨rfl, List.length_eq_zero_iff.mp (by omega)⟩
  · rw [if_neg h0]
    obtain ⟨t, ht, hslot⟩ := h.earliest (Nat.pos_of_ne_zero h0)
    exact .inr ⟨t, ht, by rw [hslot], h.shows t ht.live⟩

theorem TomgrRun.Inv.pop {s : TomgrRun δ} (h : s.Inv) :
    (s.mgr.tomgrPop).2 = none ∧ s.live = [] ∨
      ∃ t, s.Earliest t ∧ (s.mgr.tomgrPop).2 = some t.slot ∧ (s.mgr.tomgrPop).1.Shows t ∧
        (tomgrCall s .pop).popped = t :: s.popped := by
  have hsize := h.size_eq
  simp only [tomgrCall]
  rcases hpop : s.mgr.tomgrPop with ⟨m, _ | e⟩
  · have := (tomgrPop_none hpop).2
    exact .inl ⟨rfl, List.length_eq_zero_iff.mp (by omega)⟩
  · obtain ⟨hpos, hroot, has, -⟩ := tomgrPop_some h.wf h.ordered hpop
    obtain ⟨t, ht, hslot⟩ := h.earliest hpos
    obtain rfl : t.slot = e := hslot.trans hroot
    have hshow := h.shows t ht.live
    refine .inr ⟨t, ht, rfl, ⟨(has.quiet.type _).trans hshow.type,
      (has.quiet.timeout _).trans hshow.timeout, (has.quiet.data _).trans hshow.data⟩, ?_⟩
    dsimp only
    rw [h.at_eq ht.live]
    rfl

/-- A reachable state is a priority queue exactly when no insert can fail for
want of a slot that was lost. -/
theorem TomgrRun.Inv.priorityQueue_iff [Inhabited δ] {s : TomgrRun δ} (h : s.Inv) :
    s.PriorityQueue ↔ (s.lost = [] ∨ s.live.length + s.lost.length < tomgrSize) := by
  constructor
  · intro hq
    by_cases hlost : s.lost = []
    · exact .inl hlost
    · have hle := h.used_le
      have hne : s.lost.length ≠ 0 := fun h0 => hlost (List.length_eq_zero_iff.mp h0)
      refine .inr (Nat.lt_of_le_of_ne hle fun hsum => ?_)
      have := hq.room .arp 0 default ((h.insert_none_iff .arp 0 default).mpr hsum)
      omega
  · intro hroom
    refine ⟨h.ordered, h.peek, h.pop, h.once, tomgrRun_drain h (Nat.le_refl _), ?_⟩
    intro type timeout data hnone
    have hsum := (h.insert_none_iff type timeout data).mp hnone
    rcases hroom with hlost | hless
    · rw [hlost, List.length_nil] at hsum
      exact hsum
    · omega

/-- **When the timeout manager is a priority queue.** Every state of a run is
one exactly when, in every state, no slot was lost to a cancel of the last
entry, or live and lost slots together leave one free. -/
theorem tomgrRun_priorityQueue_iff [Inhabited δ] (mem : Tomgr δ) (calls : List (TomgrCall δ)) :
    (∀ before after, calls = before ++ after →
        (tomgrRun (tomgrStart mem) before).PriorityQueue) ↔
      ∀ before after, calls = before ++ after →
        ((tomgrRun (tomgrStart mem) before).lost = [] ∨
          (tomgrRun (tomgrStart mem) before).live.length +
            (tomgrRun (tomgrStart mem) before).lost.length < tomgrSize) := by
  have hinv := fun before => tomgrRun_inv (tomgrStart_inv mem) before
  constructor
  · intro h before after hcalls
    exact (hinv before).priorityQueue_iff.mp (h before after hcalls)
  · intro h before after hcalls
    exact (hinv before).priorityQueue_iff.mpr (h before after hcalls)

/-! ## Losing slots

A caller that keeps one early timeout pending and cancels each later one
before inserting the next loses a slot every time. -/

/-- One insert behind a single earlier entry, and its cancel. -/
theorem tomgrRun_lose {s : TomgrRun Nat} (h : s.Inv) (hone : s.live.length = 1)
    (hroot : (s.mgr.heap 0).timeout = 0) (hroom : 1 + s.lost.length < tomgrSize) :
    ∃ e, let s' := tomgrRun s [.insert .arp 1 0, .cancel e]
      s'.live.length = 1 ∧ (s'.mgr.heap 0).timeout = 0 ∧ s'.lost.length = s.lost.length + 1 := by
  have hsize : s.mgr.size = 1 := h.size_eq.trans hone
  rcases hins : s.mgr.tomgrInsert .arp 1 0 with ⟨m, _ | e⟩
  · have := (h.insert_none_iff .arp 1 0).mp (by rw [hins])
    omega
  -- the new entry stays behind the root
  have hm : m = s.mgr.append e .arp 1 0 := by
    unfold tomgrInsert at hins
    rw [if_neg (by unfold tomgrSize; omega)] at hins
    split at hins
    · cases hins
    · next idx _ =>
      obtain ⟨hm, rfl⟩ := Prod.mk.inj hins |>.imp id Option.some.inj
      rw [← hm, hsize]
      have hstay : ¬ (0 < 1 ∧ ((s.mgr.append idx .arp 1 0).heap 1).timeout <
          ((s.mgr.append idx .arp 1 0).heap (parent 1)).timeout) := by
        have h₁ : (s.mgr.append idx .arp 1 0).heap 1 = ⟨idx, 1⟩ := if_pos hsize.symm
        have h₀ : (s.mgr.append idx .arp 1 0).heap (parent 1) = s.mgr.heap 0 :=
          if_neg (by rw [hsize]; decide)
        rw [h₁, h₀, hroot]
        exact fun hc => absurd hc.2 (by decide : ¬ (1 : UInt64) < 0)
      unfold heapifyUp
      rw [heapifyUpLoop, if_neg hstay]
  have hnew := h.insert hins
  have hidx : (m.entries e).heapIdx = 1 := by
    rw [hm, ← hsize]
    exact congrArg ToEntry.heapIdx (if_pos rfl)
  have hlast : (m.heap 1).idx = e := by
    rw [hm]
    exact congrArg ToHeapEntry.idx (if_pos hsize.symm)
  have hlen : m.size = 2 := by rw [hm]; exact congrArg (· + 1) hsize
  have hok : (m.tomgrCancel e).2 = true := by
    unfold tomgrCancel
    dsimp only
    rw [hidx, hlen, if_neg (by rw [hlast]; simp), if_neg (by rw [setHeapIdx_size, hlen]; decide)]
    split
    · split <;> rfl
    · rfl
  have hheap : (m.tomgrCancel e).1.heap 0 = s.mgr.heap 0 := by
    have hother : ∀ ents, (m.filled 1 ents).heap 0 = m.heap 0 := fun _ => rfl
    rw [tomgrCancel_accepted (by omega) (by rw [hidx]; exact hlast) (by omega)]
    dsimp only
    rw [hidx, hlen, if_neg (by decide)]
    rw [hother, hm]
    exact if_neg (by omega)
  refine ⟨e, ?_⟩
  have hcan : m.tomgrCancel e = ((m.tomgrCancel e).1, true) := by rw [← hok]
  have hmem : (⟨s.issued, e, .arp, 1, 0⟩ : Ticket Nat) ∈
      (⟨s.issued, e, .arp, 1, 0⟩ :: s.live : List (Ticket Nat)) := List.mem_cons_self
  have hlength := hnew.length_except hmem
  simp only [tomgrRun, List.foldl_cons, List.foldl_nil, tomgrCall, hins]
  rw [hcan]
  refine ⟨?_, by rw [hheap]; exact hroot, ?_⟩
  · rw [List.length_cons] at hlength
    dsimp only at hlength ⊢
    omega
  · rw [if_pos ⟨by omega, by omega⟩]
    rfl

theorem tomgrRun_append (s : TomgrRun δ) (calls calls' : List (TomgrCall δ)) :
    tomgrRun s (calls ++ calls') = tomgrRun (tomgrRun s calls) calls' := by
  simp [tomgrRun]

/-- Memory of zeros. -/
def zeroTomgr : Tomgr Nat := ⟨fun _ => ⟨0, 0⟩, fun _ => ⟨.arp, 0, 0, 0⟩, 0⟩

theorem tomgrRun_lose_all {n : Nat} (hn : n < tomgrSize) :
    ∃ calls, let s := tomgrRun (tomgrStart zeroTomgr) calls
      s.live.length = 1 ∧ (s.mgr.heap 0).timeout = 0 ∧ s.lost.length = n := by
  induction n with
  | zero =>
    refine ⟨[.insert .arp 0 0], ?_⟩
    rcases hins : (tomgrInit zeroTomgr).tomgrInsert .arp 0 0 with ⟨m, _ | e⟩
    · have := ((tomgrStart_inv zeroTomgr).insert_none_iff .arp 0 0).mp (congrArg Prod.snd hins)
      simp [tomgrStart, tomgrSize] at this
    · have hroot : (m.heap 0).timeout = 0 := by
        unfold tomgrInsert at hins
        rw [if_neg (by decide)] at hins
        split at hins
        · cases hins
        · obtain ⟨rfl, rfl⟩ := Prod.mk.inj hins |>.imp id Option.some.inj
          rfl
      simp only [tomgrRun, List.foldl_cons, List.foldl_nil, tomgrCall, tomgrStart, hins]
      exact ⟨rfl, hroot, rfl⟩
  | succ n ih =>
    obtain ⟨calls, hone, hroot, hlost⟩ := ih (by omega)
    have hinv := tomgrRun_inv (tomgrStart_inv zeroTomgr) calls
    obtain ⟨e, hone', hroot', hlost'⟩ := tomgrRun_lose hinv hone hroot (by omega)
    refine ⟨calls ++ [.insert .arp 1 0, .cancel e], ?_⟩
    rw [tomgrRun_append]
    exact ⟨hone', hroot', by rw [hlost', hlost]⟩

/-- A run after which an insert fails with a single entry live: one early
timeout, and 1023 later ones that were each inserted and cancelled. -/
theorem tomgrRun_insert_fails :
    ∃ calls, (tomgrRun (tomgrStart zeroTomgr) calls).live.length = 1 ∧
      ((tomgrRun (tomgrStart zeroTomgr) calls).mgr.tomgrInsert .arp 1 0).2 = none ∧
      ¬ (tomgrRun (tomgrStart zeroTomgr) calls).PriorityQueue := by
  obtain ⟨calls, hone, -, hlost⟩ := tomgrRun_lose_all (n := 1023) (by decide)
  have hinv := tomgrRun_inv (tomgrStart_inv zeroTomgr) calls
  have hnone := (hinv.insert_none_iff .arp 1 0).mpr (by rw [hone, hlost]; rfl)
  refine ⟨calls, hone, hnone, fun hq => ?_⟩
  have := hq.room .arp 1 0 hnone
  rw [hone] at this
  exact absurd this (by decide)

end Tomgr

end Chamelio.Util
