import Mathlib.Data.List.Perm.Subperm
import Chamelio.Lib.Chain

/-!
# The transmit scheduler (`lib/utils/scheduler/scheduler.c`)

A priority list threaded by index through a fixed array of entries; the
index of an entry is the id of the socket it schedules, and an entry whose
`id` field is `SCHED_ID_INVALID` is not in the list.

Mirroring notes:
- `entries` is a total function on 32-bit indices; the source's array has
  `MAX_SCHED_ENTRIES` cells. Every list below only visits smaller ids.
- The two `while` loops (search the entry to remove, search the place to
  insert) are `Lib.scan` with `MAX_SCHED_ENTRIES` iterations of fuel. A
  list without repetition over ids below the bound is never longer, so the
  bound is never what stops the walk (`SchedRep.length_le`).
- `vtime` and the entries' `opaque` field are written and never read; they
  are left out.
-/

namespace Chamelio.Util

open Chamelio.Lib

/-- `SCHED_ID_INVALID`. -/
def schedIdInvalid : UInt32 := 0xffffffff

/-- `MAX_SCHED_ENTRIES`. -/
def maxSchedEntries : Nat := 131072

/-- `struct cham_sched_entry`. -/
structure SchedEntry where
  id : UInt32
  nextEntry : UInt32
  priority : UInt64
  avail : UInt32

/-- `struct cham_scheduler`. -/
structure Sched where
  entries : UInt32 → SchedEntry
  head : UInt32
  tail : UInt32

/-- The value every field of an entry has outside the list. -/
def freeEntry : SchedEntry :=
  { id := schedIdInvalid, nextEntry := schedIdInvalid, priority := 0, avail := 0 }

def schedInit : Sched :=
  { entries := fun _ => freeEntry, head := schedIdInvalid, tail := schedIdInvalid }

namespace Sched

def setEntry (s : Sched) (i : UInt32) (e : SchedEntry) : Sched :=
  { s with entries := fun j => if j = i then e else s.entries j }

/-- The link function of the list. -/
def next (s : Sched) : UInt32 → UInt32 := fun i => (s.entries i).nextEntry

def setNext (s : Sched) (i n : UInt32) : Sched :=
  s.setEntry i { s.entries i with nextEntry := n }

end Sched

def schedHead (s : Sched) : Option SchedEntry :=
  if s.head = schedIdInvalid then none else some (s.entries s.head)

def schedPop (s : Sched) : Sched × Int :=
  if s.head = schedIdInvalid then (s, -1)
  else
    let popIdx := s.head
    let head := (s.entries popIdx).nextEntry
    let tail := if head = schedIdInvalid then schedIdInvalid else s.tail
    (Sched.setEntry { s with head := head, tail := tail } popIdx freeEntry, 0)

/-- The search loop of `sched_remove`. -/
def schedFind (s : Sched) (id : UInt32) : UInt32 × UInt32 :=
  scan s.next schedIdInvalid (fun cur => cur == id) maxSchedEntries schedIdInvalid s.head

def schedRemove (s : Sched) (id : UInt32) : Sched × Int :=
  let (prev, cur) := schedFind s id
  if cur = schedIdInvalid then (s, -1)
  else
    let nextEntry := (s.entries id).nextEntry
    let s :=
      if prev = schedIdInvalid then { s with head := nextEntry } else s.setNext prev nextEntry
    let s := if s.tail = id then { s with tail := prev } else s
    (s.setEntry id freeEntry, 0)

/-- The search loop of `sched_insert`. -/
def schedPlace (s : Sched) (id : UInt32) : UInt32 × UInt32 :=
  scan s.next schedIdInvalid
    (fun cur => !decide ((s.entries cur).priority < (s.entries id).priority))
    maxSchedEntries schedIdInvalid s.head

def schedInsert (s : Sched) (id : UInt32) : Sched :=
  if s.head = schedIdInvalid then
    Sched.setNext { s with head := id, tail := id } id schedIdInvalid
  else
    let (prev, _) := schedPlace s id
    if prev = schedIdInvalid then
      { s.setNext id s.head with head := id }
    else
      let nextEntry := (s.entries prev).nextEntry
      let s := (s.setNext id nextEntry).setNext prev id
      if nextEntry = schedIdInvalid then { s with tail := id } else s

/-- Fill a free entry and insert it: the tail both branches of `sched_add`
share. -/
def schedFill (s : Sched) (id : UInt32) (priority : UInt64) (avail : UInt32) : Sched :=
  schedInsert
    (s.setEntry id { id, nextEntry := schedIdInvalid, priority, avail }) id

def schedAdd (s : Sched) (id : UInt32) (priority : UInt64) (avail : UInt32) : Sched × Int :=
  let entry := s.entries id
  if entry.id ≠ schedIdInvalid then
    let totalAvail := entry.avail + avail
    if entry.priority = priority then
      (s.setEntry id { entry with avail := totalAvail }, 0)
    else
      (schedFill (schedRemove s id).1 id priority totalAvail, 0)
  else
    (schedFill s id priority avail, 0)

/-! ## The list the scheduler represents -/

/-- `id` is on the list reached from `head`. -/
def Sched.InList (s : Sched) (id : UInt32) : Prop :=
  ∃ l, Chain s.next schedIdInvalid s.head l ∧ id ∈ l

/-- The scheduler represents the list `l`: the links from `head` visit
exactly `l`, no id twice, and an entry names itself exactly when its id is
on the list (any other entry is marked invalid). -/
structure SchedRep (s : Sched) (l : List UInt32) : Prop where
  chain : Chain s.next schedIdInvalid s.head l
  nodup : l.Nodup
  bound : ∀ x ∈ l, x.toNat < maxSchedEntries
  own : ∀ x ∈ l, (s.entries x).id = x
  free : ∀ x, x ∉ l → (s.entries x).id = schedIdInvalid

/-- The list fits the iteration bound of the search loops. -/
theorem SchedRep.length_le {s : Sched} {l : List UInt32} (h : SchedRep s l) :
    l.length ≤ maxSchedEntries := by
  have hnd : (l.map UInt32.toNat).Nodup :=
    List.Pairwise.map UInt32.toNat (fun _ _ hne he => hne (UInt32.toNat_inj.mp he)) h.nodup
  have hsub : ∀ x ∈ l.map UInt32.toNat, x ∈ List.range maxSchedEntries := by
    intro x hx
    obtain ⟨y, hy, rfl⟩ := List.mem_map.mp hx
    exact List.mem_range.mpr (h.bound y hy)
  have := (hnd.subperm hsub).length_le
  simpa using this

theorem toNat_ne_invalid {x : UInt32} (h : x.toNat < maxSchedEntries) :
    x ≠ schedIdInvalid := by
  intro he
  rw [he] at h
  exact absurd h (by decide)

theorem SchedRep.mem_iff {s : Sched} {l : List UInt32} (h : SchedRep s l) (x : UInt32) :
    (s.entries x).id ≠ schedIdInvalid ↔ x ∈ l := by
  constructor
  · intro hne
    by_cases hx : x ∈ l
    · exact hx
    · exact absurd (h.free x hx) hne
  · intro hx
    rw [h.own x hx]
    exact toNat_ne_invalid (h.bound x hx)

theorem SchedRep.inList {s : Sched} {l : List UInt32} (h : SchedRep s l) {x : UInt32}
    (hx : x ∈ l) : s.InList x :=
  ⟨l, h.chain, hx⟩

theorem schedInit_rep : SchedRep schedInit [] where
  chain := ⟨rfl, by simp⟩
  nodup := List.nodup_nil
  bound := by simp
  own := by simp
  free := fun _ _ => rfl

/-! ## Field lemmas -/

@[simp] theorem setEntry_head (s : Sched) (i : UInt32) (e : SchedEntry) :
    (s.setEntry i e).head = s.head := rfl

@[simp] theorem setNext_head (s : Sched) (i n : UInt32) : (s.setNext i n).head = s.head := rfl

theorem setEntry_self (s : Sched) (i : UInt32) (e : SchedEntry) :
    (s.setEntry i e).entries i = e := by
  unfold Sched.setEntry
  simp

theorem setEntry_ne (s : Sched) {i j : UInt32} (e : SchedEntry) (h : j ≠ i) :
    (s.setEntry i e).entries j = s.entries j := by
  unfold Sched.setEntry
  simp [h]

theorem setNext_next (s : Sched) (i n : UInt32) :
    (s.setNext i n).next = redirect s.next i n := by
  funext j
  unfold Sched.next Sched.setNext Sched.setEntry redirect
  by_cases h : j = i
  · simp [h]
  · simp [h]

/-- Two entries that say the same, their links aside. -/
structure SameEntry (e e' : SchedEntry) : Prop where
  id : e'.id = e.id
  priority : e'.priority = e.priority
  avail : e'.avail = e.avail

theorem SameEntry.refl (e : SchedEntry) : SameEntry e e := ⟨rfl, rfl, rfl⟩

theorem SameEntry.trans {e₁ e₂ e₃ : SchedEntry} (h₁ : SameEntry e₁ e₂) (h₂ : SameEntry e₂ e₃) :
    SameEntry e₁ e₃ :=
  ⟨h₂.id.trans h₁.id, h₂.priority.trans h₁.priority, h₂.avail.trans h₁.avail⟩

theorem setNext_same (s : Sched) (i n j : UInt32) :
    SameEntry (s.entries j) ((s.setNext i n).entries j) := by
  unfold Sched.setNext Sched.setEntry
  by_cases h : j = i
  · simp only [h, if_true]
    exact ⟨rfl, rfl, rfl⟩
  · simp only [h, if_false]
    exact SameEntry.refl _

theorem setNext_id (s : Sched) (i n j : UInt32) :
    ((s.setNext i n).entries j).id = (s.entries j).id := (setNext_same s i n j).id

theorem setEntry_same_ne (s : Sched) {i j : UInt32} (e : SchedEntry) (h : j ≠ i) :
    SameEntry (s.entries j) ((s.setEntry i e).entries j) := by
  rw [setEntry_ne s e h]
  exact SameEntry.refl _

/-! ## What the operations leave in the other entries -/

/-- Linking an entry in changes links only. -/
theorem schedInsert_same (s : Sched) (id j : UInt32) :
    SameEntry (s.entries j) ((schedInsert s id).entries j) := by
  unfold schedInsert
  split
  · exact setNext_same _ id schedIdInvalid j
  · dsimp only
    split
    · exact setNext_same s id s.head j
    · have h : ∀ p n, SameEntry (s.entries j) (((s.setNext id n).setNext p id).entries j) :=
        fun p n => (setNext_same s id n j).trans (setNext_same _ p id j)
      split
      · exact h _ _
      · exact h _ _

theorem schedFill_self (s : Sched) (id : UInt32) (priority : UInt64) (avail : UInt32) :
    SameEntry { id, nextEntry := schedIdInvalid, priority, avail }
      ((schedFill s id priority avail).entries id) := by
  have h := schedInsert_same (s.setEntry id { id, nextEntry := schedIdInvalid, priority, avail }) id id
  rw [setEntry_self] at h
  exact h

theorem schedFill_same_ne (s : Sched) {id j : UInt32} (priority : UInt64) (avail : UInt32)
    (h : j ≠ id) : SameEntry (s.entries j) ((schedFill s id priority avail).entries j) :=
  (setEntry_same_ne s _ h).trans (schedInsert_same _ id j)

/-- `sched_remove` clears the entry it takes off, and no other. -/
theorem schedRemove_same_ne (s : Sched) {id j : UInt32} (h : j ≠ id) :
    SameEntry (s.entries j) ((schedRemove s id).1.entries j) := by
  unfold schedRemove
  dsimp only
  split
  · exact SameEntry.refl _
  · dsimp only
    rw [setEntry_ne _ _ h]
    -- the patched links, then the patched tail
    split
    · split
      · exact SameEntry.refl _
      · exact SameEntry.refl _
    · split
      · exact setNext_same _ _ _ j
      · exact setNext_same _ _ _ j

theorem schedPop_same_ne (s : Sched) {j : UInt32} (h : j ≠ s.head) :
    SameEntry (s.entries j) ((schedPop s).1.entries j) := by
  unfold schedPop
  split
  · exact SameEntry.refl _
  · exact setEntry_same_ne _ _ h

theorem schedAdd_same_ne (s : Sched) {id j : UInt32} (priority : UInt64) (avail : UInt32)
    (h : j ≠ id) : SameEntry (s.entries j) ((schedAdd s id priority avail).1.entries j) := by
  unfold schedAdd
  dsimp only
  split
  · split
    · exact setEntry_same_ne s _ h
    · exact (schedRemove_same_ne s h).trans (schedFill_same_ne _ _ _ h)
  · exact schedFill_same_ne _ _ _ h

/-! ## The operations on the represented list -/

/-- Freeing the entry of an id that has just left the list. -/
private theorem release_rep {s : Sched} {l : List UInt32} {id : UInt32}
    (hc : Chain s.next schedIdInvalid s.head l) (hnd : l.Nodup)
    (hb : ∀ x ∈ l, x.toNat < maxSchedEntries) (hid : id ∉ l)
    (hown : ∀ x ∈ l, (s.entries x).id = x)
    (hfree : ∀ x, x ∉ l → x ≠ id → (s.entries x).id = schedIdInvalid) :
    SchedRep (s.setEntry id freeEntry) l where
  chain := by
    refine chain_congr (fun x hx => ?_) hc
    have hne : x ≠ id := fun he => hid (he ▸ hx)
    unfold Sched.next
    rw [setEntry_ne s _ hne]
  nodup := hnd
  bound := hb
  own := by
    intro x hx
    have hne : x ≠ id := fun he => hid (he ▸ hx)
    rw [setEntry_ne s _ hne]
    exact hown x hx
  free := by
    intro x hx
    by_cases he : x = id
    · rw [he, setEntry_self]
      rfl
    · rw [setEntry_ne s _ he]
      exact hfree x hx he

theorem schedHead_eq {s : Sched} {x : UInt32} {l : List UInt32} (h : SchedRep s (x :: l)) :
    schedHead s = some (s.entries x) := by
  have hx : s.head = x := h.chain.seg.1
  unfold schedHead
  rw [hx, if_neg (h.chain.ne x List.mem_cons_self)]

theorem schedHead_none {s : Sched} (h : SchedRep s []) : schedHead s = none := by
  have hx : s.head = schedIdInvalid := h.chain.seg
  unfold schedHead
  rw [if_pos hx]

/-- `sched_pop` removes the first id of the list. -/
theorem schedPop_rep {s : Sched} {x : UInt32} {l : List UInt32} (h : SchedRep s (x :: l)) :
    SchedRep (schedPop s).1 l ∧ (schedPop s).2 = 0 := by
  have hx : s.head = x := h.chain.seg.1
  have hne := h.chain.ne x List.mem_cons_self
  have hnd := List.nodup_cons.mp h.nodup
  unfold schedPop
  rw [hx, if_neg hne]
  refine ⟨release_rep ?_ hnd.2 (fun y hy => h.bound y (List.mem_cons_of_mem _ hy)) hnd.1
    (fun y hy => h.own y (List.mem_cons_of_mem _ hy)) ?_, rfl⟩
  · exact chain_tail h.chain
  · intro y hy hyx
    apply h.free y
    intro hm
    rcases List.mem_cons.mp hm with rfl | hm
    · exact hyx rfl
    · exact hy hm

/-- On a list that holds `id`, the search loop of `sched_remove` finds it. -/
theorem schedFind_eq {s : Sched} {id : UInt32} {l₁ l₂ : List UInt32}
    (h : SchedRep s (l₁ ++ id :: l₂)) (hid : id ∉ l₁) :
    schedFind s id = (l₁.getLast?.getD schedIdInvalid, id) := by
  unfold schedFind
  rw [scan_split (fun cur => cur == id) h.chain h.length_le]
  · rfl
  · intro x hx
    have hne : x ≠ id := fun he => hid (he ▸ hx)
    simpa using hne
  · intro x hx
    have he : id = x := by simpa using hx
    simp [he]

/-- What unlinking `id` leaves, whichever way the tail index is patched. -/
private theorem unlink_rep {s s' : Sched} {l₁ l₂ : List UInt32} {id : UInt32}
    (h : SchedRep s (l₁ ++ id :: l₂))
    (hc : Chain s'.next schedIdInvalid s'.head (l₁ ++ l₂))
    (hid : ∀ x, (s'.entries x).id = (s.entries x).id) :
    SchedRep (s'.setEntry id freeEntry) (l₁ ++ l₂) := by
  have hmem : ∀ x, x ∈ l₁ ++ l₂ → x ∈ l₁ ++ id :: l₂ := by
    intro x hx
    rcases List.mem_append.mp hx with hx | hx
    · exact List.mem_append_left _ hx
    · exact List.mem_append_right _ (List.mem_cons_of_mem _ hx)
  have hnd := List.perm_middle.nodup_iff.mp h.nodup
  refine release_rep hc (List.nodup_cons.mp hnd).2 (fun x hx => h.bound x (hmem x hx))
    (List.nodup_cons.mp hnd).1 (fun x hx => ?_) (fun x hx hne => ?_)
  · rw [hid, h.own x (hmem x hx)]
  · rw [hid]
    apply h.free
    intro hm
    rcases List.mem_append.mp hm with hm | hm
    · exact hx (List.mem_append_left _ hm)
    · rcases List.mem_cons.mp hm with he | hm
      · exact hne he
      · exact hx (List.mem_append_right _ hm)

/-- **`sched_remove` unlinks an id of the list**, and moves the tail with it. -/
theorem schedRemove_list {s : Sched} {l₁ l₂ : List UInt32} {id : UInt32}
    (h : SchedRep s (l₁ ++ id :: l₂)) :
    SchedRep (schedRemove s id).1 (l₁ ++ l₂) ∧ (schedRemove s id).2 = 0 ∧
      (s.tail = (l₁ ++ id :: l₂).getLast?.getD schedIdInvalid →
        (schedRemove s id).1.tail = (l₁ ++ l₂).getLast?.getD schedIdInvalid) := by
  have hnd := List.nodup_cons.mp (List.perm_middle.nodup_iff.mp h.nodup)
  have hid₁ : id ∉ l₁ := fun hm => hnd.1 (List.mem_append_left _ hm)
  have hne := h.chain.ne id (by simp)
  -- the tail moves if and only if `id` was the last
  have htail : ∀ t : UInt32, t = (l₁ ++ id :: l₂).getLast?.getD schedIdInvalid →
      (if t = id then l₁.getLast?.getD schedIdInvalid else t) =
        (l₁ ++ l₂).getLast?.getD schedIdInvalid := by
    intro t ht
    rcases List.eq_nil_or_concat l₂ with rfl | ⟨l₃, q, hl⟩
    · rw [if_pos (by rw [ht]; simp), List.append_nil]
    · rw [List.concat_eq_append] at hl
      subst hl
      have hq : id ≠ q := fun he => hnd.1 (by rw [he]; simp)
      have htq : t = q := by
        rw [ht, show l₁ ++ id :: (l₃ ++ [q]) = l₁ ++ id :: l₃ ++ [q] by simp,
          List.getLast?_concat, Option.getD_some]
      rw [htq, if_neg (Ne.symm hq), ← List.append_assoc]
      simp
  unfold schedRemove
  simp only [schedFind_eq h hid₁]
  rw [if_neg hne]
  rcases List.eq_nil_or_concat l₁ with rfl | ⟨l₀, p, hl⟩
  · -- `id` was the head
    refine ⟨unlink_rep h ?_ (fun x => ?_), rfl, fun ht => ?_⟩
    · have hc : Chain s.next schedIdInvalid (s.next id) l₂ := by
        have := h.chain
        rw [List.nil_append] at this
        exact chain_tail this
      simp only [List.getLast?_nil, Option.getD_none, if_true, List.nil_append]
      split <;> exact hc
    · simp only [List.getLast?_nil, Option.getD_none, if_true]
      split <;> rfl
    · rw [← htail s.tail ht]
      simp only [List.getLast?_nil, Option.getD_none, if_true]
      split <;> rfl
  · -- `id` follows `p`
    rw [List.concat_eq_append] at hl
    subst hl
    have hp : p ≠ schedIdInvalid := h.chain.ne p (by simp)
    have hnd' := (List.nodup_append.mp (List.nodup_append.mp hnd.2).1)
    have hp₀ : p ∉ l₀ := fun hm => (hnd'.2.2 p hm p (by simp)) rfl
    have hp₂ : p ∉ l₂ := fun hm =>
      (List.nodup_append.mp hnd.2).2.2 p (by simp) p hm rfl
    have hlast : (l₀ ++ [p]).getLast?.getD schedIdInvalid = p := by simp
    simp only [hlast, if_neg hp]
    refine ⟨unlink_rep h ?_ (fun x => ?_), trivial, fun ht => ?_⟩
    · have hc := chain_unlink hp₀ hp₂ h.chain
      rw [show s.next id = (s.entries id).nextEntry from rfl, ← setNext_next] at hc
      split <;> exact hc
    · have hx := setNext_id s p (s.entries id).nextEntry x
      split <;> exact hx
    · have ht' := htail s.tail ht
      rw [hlast] at ht'
      rw [← ht']
      show (Sched.tail (if s.tail = id then _ else _)) = _
      split <;> rfl

/-- `sched_remove` of an id that is not on the list fails and changes nothing. -/
theorem schedRemove_absent {s : Sched} {l : List UInt32} (h : SchedRep s l) {id : UInt32}
    (hid : id ∉ l) : schedRemove s id = (s, -1) := by
  have hfind : schedFind s id = (l.getLast?.getD schedIdInvalid, schedIdInvalid) := by
    unfold schedFind
    have hc : Chain s.next schedIdInvalid s.head (l ++ []) := by
      rw [List.append_nil]
      exact h.chain
    refine (scan_split (fun cur => cur == id) hc ?_ (fun x hx => ?_) (by simp)).trans rfl
    · rw [List.append_nil]
      exact h.length_le
    · have hne : x ≠ id := fun he => hid (he ▸ hx)
      simpa using hne
  unfold schedRemove
  simp only [hfind, if_true]

/-- `sched_remove` takes `id` off the list and keeps the others. -/
theorem schedRemove_rep {s : Sched} {l : List UInt32} (h : SchedRep s l) (id : UInt32) :
    ∃ l', SchedRep (schedRemove s id).1 l' ∧ ∀ x, x ∈ l' ↔ x ∈ l ∧ x ≠ id := by
  by_cases hmem : id ∈ l
  · obtain ⟨l₁, l₂, rfl, -⟩ := List.eq_append_cons_of_mem hmem
    have hnd := List.nodup_cons.mp (List.perm_middle.nodup_iff.mp h.nodup)
    refine ⟨l₁ ++ l₂, (schedRemove_list h).1, fun x => ?_⟩
    rw [List.perm_middle.mem_iff, List.mem_cons]
    constructor
    · intro hx
      exact ⟨.inr hx, fun he => hnd.1 (he ▸ hx)⟩
    · intro ⟨hx, hne⟩
      exact hx.resolve_left hne
  · rw [schedRemove_absent h hmem]
    exact ⟨l, h, fun x => ⟨fun hx => ⟨hx, fun he => hmem (he ▸ hx)⟩, fun hx => hx.1⟩⟩

/-- What linking `id` in leaves, wherever it went. -/
private theorem link_rep {s s' : Sched} {l l' : List UInt32} {id : UInt32}
    (h : SchedRep s l) (hid : id ∉ l) (hb : id.toNat < maxSchedEntries)
    (hperm : l'.Perm (id :: l)) (hc : Chain s'.next schedIdInvalid s'.head l')
    (hown : (s'.entries id).id = id)
    (hother : ∀ x, x ≠ id → (s'.entries x).id = (s.entries x).id) : SchedRep s' l' where
  chain := hc
  nodup := hperm.nodup_iff.mpr (List.nodup_cons.mpr ⟨hid, h.nodup⟩)
  bound := by
    intro x hx
    rcases List.mem_cons.mp (hperm.mem_iff.mp hx) with rfl | hx
    · exact hb
    · exact h.bound x hx
  own := by
    intro x hx
    rcases List.mem_cons.mp (hperm.mem_iff.mp hx) with rfl | hx
    · exact hown
    · rw [hother x (fun he => hid (he ▸ hx))]
      exact h.own x hx
  free := by
    intro x hx
    have hx' : x ∉ id :: l := fun hm => hx (hperm.mem_iff.mpr hm)
    rw [hother x (fun he => hx' (he ▸ List.mem_cons_self))]
    exact h.free x (fun hm => hx' (List.mem_cons_of_mem _ hm))

/-- `sched_insert` of a filled entry that is not on the list puts it before the
first entry that is not due earlier. -/
theorem schedInsert_chain {s : Sched} {l : List UInt32} {id : UInt32}
    (hc : Chain s.next schedIdInvalid s.head l) (hnd : l.Nodup) (hlen : l.length ≤ maxSchedEntries)
    (hid : id ∉ l) (hne : id ≠ schedIdInvalid) :
    ∃ l₁ l₂, l = l₁ ++ l₂ ∧
      (∀ x ∈ l₁, (s.entries x).priority < (s.entries id).priority) ∧
      (∀ x, l₂.head? = some x → ¬(s.entries x).priority < (s.entries id).priority) ∧
      Chain (schedInsert s id).next schedIdInvalid (schedInsert s id).head (l₁ ++ id :: l₂) ∧
      (s.tail = l.getLast?.getD schedIdInvalid →
        (schedInsert s id).tail = (l₁ ++ id :: l₂).getLast?.getD schedIdInvalid) := by
  unfold schedInsert
  by_cases hh : s.head = schedIdInvalid
  · have hl : l = [] := (chain_nil_iff hc).mp hh
    subst hl
    rw [if_pos hh]
    refine ⟨[], [], rfl, by simp, by simp, ?_, fun _ => rfl⟩
    refine chain_cons (x := id) hne ⟨?_, by simp⟩
    rw [setNext_next, redirect_self]
    rfl
  · rw [if_neg hh]
    obtain ⟨l₁, l₂, rfl, h₁, h₂⟩ := exists_split
      (fun cur => !decide ((s.entries cur).priority < (s.entries id).priority)) l
    have hplace : schedPlace s id =
        (l₁.getLast?.getD schedIdInvalid, l₂.head?.getD schedIdInvalid) :=
      scan_split _ hc hlen h₁ h₂
    simp only [hplace]
    refine ⟨l₁, l₂, rfl, fun x hx => by simpa using h₁ x hx, fun x hx => by simpa using h₂ x hx, ?_⟩
    rcases List.eq_nil_or_concat l₁ with rfl | ⟨l₀, p, hl⟩
    · -- new head
      simp only [List.getLast?_nil, Option.getD_none, if_true]
      refine ⟨?_, fun ht => ?_⟩
      · refine chain_cons (x := id) hne ?_
        show Chain (s.setNext id s.head).next schedIdInvalid ((s.setNext id s.head).next id) l₂
        rw [setNext_next, redirect_self]
        refine chain_congr (fun x hx => ?_) hc
        exact redirect_ne _ _ (fun he => hid (he ▸ hx))
      · -- the list is not empty, so it keeps its last entry
        cases l₂ with
        | nil => exact absurd hc.seg hh
        | cons y l₃ =>
          rw [List.nil_append, List.getLast?_cons_cons]
          exact ht
    · -- after `p`
      rw [List.concat_eq_append] at hl
      subst hl
      have hp : p ≠ schedIdInvalid := hc.ne p (by simp)
      have hlast : (l₀ ++ [p]).getLast?.getD schedIdInvalid = p := by simp
      have hnd' := List.nodup_append.mp hnd
      have hp₀ : p ∉ l₀ := fun hm =>
        (List.nodup_append.mp hnd'.1).2.2 p hm p (by simp) rfl
      have hp₂ : p ∉ l₂ := fun hm => hnd'.2.2 p (by simp) p hm rfl
      have hnext : (s.entries p).nextEntry = l₂.head?.getD schedIdInvalid := by
        obtain ⟨m, hs₁, hs₂⟩ := seg_append.mp hc.seg
        obtain ⟨q, _, hs₃⟩ := seg_append.mp hs₁
        have hm : s.next p = m := hs₃.2
        rw [show (s.entries p).nextEntry = s.next p from rfl, hm]
        exact chain_head ⟨hs₂, fun y hy => hc.ne y (List.mem_append_right _ hy)⟩
      simp only [hlast, if_neg hp]
      refine ⟨?_, fun ht => ?_⟩
      · have hc₁ : Chain (s.setNext id (s.entries p).nextEntry).next schedIdInvalid s.head
            (l₀ ++ [p] ++ l₂) := by
          rw [setNext_next]
          exact chain_congr (fun x hx => redirect_ne _ _ (fun he => hid (he ▸ hx))) hc
        have hc₂ := chain_link hp₀ hp₂ hid hne
          (by rw [setNext_next, redirect_self, hnext]) hc₁
        rw [← setNext_next] at hc₂
        split <;> exact hc₂
      · rw [hnext]
        cases l₂ with
        | nil => simp
        | cons y l₃ =>
          have hy : y ≠ schedIdInvalid := hc.ne y (by simp)
          rw [List.head?_cons, Option.getD_some, if_neg hy]
          rw [List.getLast?_append_cons, List.getLast?_cons_cons, ← List.getLast?_append_cons]
          exact ht

/-- Filling a free entry and inserting it puts `id` on the list, before the
first entry that is not due earlier. -/
theorem schedFill_list {s : Sched} {l : List UInt32} (h : SchedRep s l) {id : UInt32}
    (hid : id ∉ l) (hb : id.toNat < maxSchedEntries) (priority : UInt64) (avail : UInt32) :
    ∃ l₁ l₂, l = l₁ ++ l₂ ∧ (∀ x ∈ l₁, (s.entries x).priority < priority) ∧
      (∀ x, l₂.head? = some x → ¬(s.entries x).priority < priority) ∧
      SchedRep (schedFill s id priority avail) (l₁ ++ id :: l₂) ∧
      (s.tail = l.getLast?.getD schedIdInvalid →
        (schedFill s id priority avail).tail = (l₁ ++ id :: l₂).getLast?.getD schedIdInvalid) := by
  have hne := toNat_ne_invalid hb
  have hc : Chain (s.setEntry id { id, nextEntry := schedIdInvalid, priority, avail }).next
      schedIdInvalid s.head l := by
    refine chain_congr (fun x hx => ?_) h.chain
    have hxid : x ≠ id := fun he => hid (he ▸ hx)
    unfold Sched.next
    rw [setEntry_ne s _ hxid]
  obtain ⟨l₁, l₂, hl, h₁, h₂, hc', ht⟩ := schedInsert_chain hc h.nodup h.length_le hid hne
  -- the entries compared are not the one filled
  have hprio : ∀ x ∈ l, (s.setEntry id { id, nextEntry := schedIdInvalid, priority, avail }).entries
      x = s.entries x := by
    intro x hx
    exact setEntry_ne s _ (fun he => hid (he ▸ hx))
  refine ⟨l₁, l₂, hl, fun x hx => ?_, fun x hx => ?_, ?_, ht⟩
  · have := h₁ x hx
    rw [setEntry_self, hprio x (hl ▸ List.mem_append_left _ hx)] at this
    exact this
  · have := h₂ x hx
    rw [setEntry_self, hprio x (hl ▸ List.mem_append_right _ (List.mem_of_head? hx))] at this
    exact this
  · have hperm : (l₁ ++ id :: l₂).Perm (id :: l) := hl ▸ List.perm_middle
    refine link_rep h hid hb hperm hc' ?_ (fun x hx => ?_)
    · exact (schedFill_self s id priority avail).id
    · exact (schedFill_same_ne s priority avail hx).id

/-- Filling a free entry and inserting it puts `id` on the list. -/
theorem schedFill_rep {s : Sched} {l : List UInt32} (h : SchedRep s l) {id : UInt32}
    (hid : id ∉ l) (hb : id.toNat < maxSchedEntries) (priority : UInt64) (avail : UInt32) :
    ∃ l', SchedRep (schedFill s id priority avail) l' ∧ ∀ x, x ∈ l' ↔ x ∈ l ∨ x = id := by
  obtain ⟨l₁, l₂, rfl, -, -, hrep, -⟩ := schedFill_list h hid hb priority avail
  refine ⟨l₁ ++ id :: l₂, hrep, fun x => ?_⟩
  rw [List.perm_middle.mem_iff, List.mem_cons, Or.comm]

/-- `sched_add` always succeeds. -/
theorem schedAdd_ret (s : Sched) (id : UInt32) (priority : UInt64) (avail : UInt32) :
    (schedAdd s id priority avail).2 = 0 := by
  unfold schedAdd
  dsimp only
  split
  · split <;> rfl
  · rfl

/-- **`sched_add`**: afterwards the list holds `id` and whatever it held
before. -/
theorem schedAdd_rep {s : Sched} {l : List UInt32} (h : SchedRep s l) {id : UInt32}
    (hb : id.toNat < maxSchedEntries) (priority : UInt64) (avail : UInt32) :
    ∃ l', SchedRep (schedAdd s id priority avail).1 l' ∧ ∀ x, x ∈ l' ↔ x ∈ l ∨ x = id := by
  unfold schedAdd
  by_cases hin : (s.entries id).id ≠ schedIdInvalid
  · have hmem := (h.mem_iff id).mp hin
    simp only [if_pos hin]
    split
    · refine ⟨l, ?_, fun x => ⟨Or.inl, ?_⟩⟩
      · -- only the amount changes
        refine ⟨chain_congr (fun x _ => ?_) h.chain, h.nodup, h.bound, fun x hx => ?_,
          fun x hx => ?_⟩
        · unfold Sched.next Sched.setEntry
          by_cases he : x = id <;> simp [he]
        · rw [← h.own x hx]
          unfold Sched.setEntry
          by_cases he : x = id
          · simp [he, h.own id hmem]
          · simp [he, h.own x hx]
        · have hxid : x ≠ id := fun he => hx (he ▸ hmem)
          rw [setEntry_ne s _ hxid]
          exact h.free x hx
      · rintro (hx | rfl)
        · exact hx
        · exact hmem
    · obtain ⟨l₁, hrep, hmem₁⟩ := schedRemove_rep h id
      obtain ⟨l₂, hrep₂, hmem₂⟩ := schedFill_rep hrep
        (fun hx => ((hmem₁ id).mp hx).2 rfl) hb priority ((s.entries id).avail + avail)
      refine ⟨l₂, hrep₂, fun x => ?_⟩
      rw [hmem₂, hmem₁]
      constructor
      · rintro (hx | rfl)
        · exact Or.inl hx.1
        · exact Or.inr rfl
      · rintro (hx | rfl)
        · by_cases he : x = id
          · exact Or.inr he
          · exact Or.inl ⟨hx, he⟩
        · exact Or.inr rfl
  · have hnot : id ∉ l := fun hm => hin ((h.mem_iff id).mpr hm)
    rw [if_neg hin]
    exact schedFill_rep h hnot hb priority avail

/-! ## The time an entry is due -/

theorem schedPop_priority_ne (s : Sched) {j : UInt32} (h : j ≠ s.head) :
    ((schedPop s).1.entries j).priority = (s.entries j).priority :=
  (schedPop_same_ne s h).priority

/-- After `sched_add` the entry is due at the time given, whether it was on
the list or not. -/
theorem schedAdd_priority (s : Sched) (id : UInt32) (priority : UInt64) (avail : UInt32) :
    ((schedAdd s id priority avail).1.entries id).priority = priority := by
  unfold schedAdd
  dsimp only
  split
  · split
    · next h =>
      rw [setEntry_self]
      exact h
    · exact (schedFill_self _ _ _ _).priority
  · exact (schedFill_self _ _ _ _).priority

theorem schedAdd_priority_ne (s : Sched) {id j : UInt32} (priority : UInt64) (avail : UInt32)
    (h : j ≠ id) :
    ((schedAdd s id priority avail).1.entries j).priority = (s.entries j).priority :=
  (schedAdd_same_ne s priority avail h).priority

end Chamelio.Util
