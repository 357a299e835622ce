import Chamelio.Lib.Run
import Chamelio.Util.Scheduler

/-!
# The scheduler is a priority list

`SchedRep` says which ids are on the list. `SchedList` adds their order, the
tail and what the entries off the list hold, and is kept by `sched_add`,
`sched_pop` and `sched_remove` in any order; what each of them does to the
list is said as a list operation (insertion before the first id that is not
due earlier, `erase`, tail).

Mirroring notes: `sched_add` of an id that is on the list with another
priority unlinks it and inserts it again, so the ids due at the same time stand
in the order opposite to that in which they were added. The ids of a call are
below `MAX_SCHED_ENTRIES`; above it the source writes outside its array.
-/

namespace Chamelio.Util

open Chamelio.Lib

/-- A sorted list stays sorted when an element goes between those it does not
precede and those it does. -/
theorem pairwise_insert {α : Type} {r : α → α → Prop} (htrans : ∀ a b c, r a b → r b c → r a c)
    {l₁ l₂ : List α} {x : α} (h : (l₁ ++ l₂).Pairwise r) (h₁ : ∀ y ∈ l₁, r y x)
    (h₂ : ∀ y, l₂.head? = some y → r x y) : (l₁ ++ x :: l₂).Pairwise r := by
  obtain ⟨hp₁, hp₂, hcross⟩ := List.pairwise_append.mp h
  have hx : ∀ y ∈ l₂, r x y := by
    cases l₂ with
    | nil => simp
    | cons z l₃ =>
      intro y hy
      have hxz := h₂ z rfl
      rcases List.mem_cons.mp hy with rfl | hy
      · exact hxz
      · exact htrans x z y hxz (List.rel_of_pairwise_cons hp₂ hy)
  refine List.pairwise_append.mpr ⟨hp₁, List.pairwise_cons.mpr ⟨hx, hp₂⟩, fun a ha b hb => ?_⟩
  rcases List.mem_cons.mp hb with rfl | hb
  · exact h₁ a ha
  · exact hcross a ha b hb

/-- `l` is in nondecreasing priority. -/
def DueInOrder (s : Sched) (l : List UInt32) : Prop :=
  l.Pairwise fun x y => (s.entries x).priority ≤ (s.entries y).priority

theorem DueInOrder.congr {s s' : Sched} {l : List UInt32} (h : DueInOrder s l)
    (hs : ∀ x ∈ l, (s'.entries x).priority = (s.entries x).priority) : DueInOrder s' l := by
  refine List.Pairwise.imp_of_mem (fun {x y} hx hy hle => ?_) h
  rw [hs x hx, hs y hy]
  exact hle

/-- The scheduler represents the priority list `l`: beside `SchedRep`, in order,
with the last id in `tail` and nothing to transmit off the list. -/
structure SchedList (s : Sched) (l : List UInt32) : Prop where
  rep : SchedRep s l
  order : DueInOrder s l
  tail : s.tail = l.getLast?.getD schedIdInvalid
  idle : ∀ x, x ∉ l → (s.entries x).avail = 0

theorem schedInit_list : SchedList schedInit [] :=
  ⟨schedInit_rep, List.Pairwise.nil, rfl, fun _ _ => rfl⟩

/-! ## The operations -/

section ops

variable {s : Sched} {l l₁ l₂ : List UInt32} {id x : UInt32}

theorem schedRemove_self (h : SchedRep s (l₁ ++ id :: l₂)) :
    (schedRemove s id).1.entries id = freeEntry := by
  have hne := h.chain.ne id (by simp)
  unfold schedRemove
  have hnd := List.nodup_cons.mp (List.perm_middle.nodup_iff.mp h.nodup)
  rw [schedFind_eq h (fun hm => hnd.1 (List.mem_append_left _ hm))]
  dsimp only
  rw [if_neg hne]
  exact setEntry_self _ id freeEntry

/-- **`sched_remove` takes exactly its id off the list.** -/
theorem SchedList.remove (h : SchedList s (l₁ ++ id :: l₂)) :
    SchedList (schedRemove s id).1 (l₁ ++ l₂) := by
  obtain ⟨hrep, -, htail⟩ := schedRemove_list h.rep
  have hnd := List.nodup_cons.mp (List.perm_middle.nodup_iff.mp h.rep.nodup)
  refine ⟨hrep, ?_, htail h.tail, fun x hx => ?_⟩
  · have hsub : (l₁ ++ l₂).Sublist (l₁ ++ id :: l₂) :=
      List.Sublist.append (List.Sublist.refl _) (List.sublist_cons_self id l₂)
    refine DueInOrder.congr (List.Pairwise.sublist hsub h.order) fun x hx => ?_
    have hne : x ≠ id := fun he => hnd.1 (he ▸ hx)
    exact (schedRemove_same_ne s hne).priority
  · by_cases hxid : x = id
    · rw [hxid, schedRemove_self h.rep]
      rfl
    · rw [(schedRemove_same_ne s hxid).avail]
      apply h.idle
      rw [List.perm_middle.mem_iff, List.mem_cons]
      exact not_or.mpr ⟨hxid, hx⟩

/-- **`sched_pop` takes the first id off the list.** -/
theorem SchedList.pop (h : SchedList s (x :: l)) :
    SchedList (schedPop s).1 l ∧ (schedPop s).2 = 0 ∧
      ∀ y, y ≠ x → SameEntry (s.entries y) ((schedPop s).1.entries y) := by
  obtain ⟨hrep, hret⟩ := schedPop_rep h.rep
  have hx : s.head = x := h.rep.chain.seg.1
  have hnext := chain_head (chain_tail h.rep.chain)
  have hnd := List.nodup_cons.mp h.rep.nodup
  have hsame : ∀ y, y ≠ x → SameEntry (s.entries y) ((schedPop s).1.entries y) :=
    fun y hy => schedPop_same_ne s (by rw [hx]; exact hy)
  refine ⟨⟨hrep, ?_, ?_, fun y hy => ?_⟩, hret, hsame⟩
  · refine DueInOrder.congr (List.pairwise_cons.mp h.order).2 fun y hy => ?_
    exact (hsame y (fun he => hnd.1 (he ▸ hy))).priority
  · have hxne := h.rep.chain.ne x List.mem_cons_self
    unfold schedPop
    rw [hx, if_neg hxne]
    show (if s.next x = schedIdInvalid then schedIdInvalid else s.tail) = _
    rw [hnext]
    cases l with
    | nil => simp
    | cons y l' =>
      have hy := h.rep.chain.ne y (by simp)
      rw [List.head?_cons, Option.getD_some, if_neg hy, h.tail, List.getLast?_cons_cons]
  · by_cases hyx : y = x
    · have hxne := h.rep.chain.ne x List.mem_cons_self
      unfold schedPop
      rw [hx, if_neg hxne, hyx]
      dsimp only
      rw [setEntry_self]
      rfl
    · rw [(hsame y hyx).avail]
      exact h.idle y (fun hm => hy ((List.mem_cons.mp hm).resolve_left hyx))

/-- Filling a free entry and inserting it keeps the order. -/
theorem SchedList.fill (h : SchedList s l) (hid : id ∉ l) (hb : id.toNat < maxSchedEntries)
    (priority : UInt64) (avail : UInt32) :
    ∃ l₁ l₂, l = l₁ ++ l₂ ∧ SchedList (schedFill s id priority avail) (l₁ ++ id :: l₂) := by
  obtain ⟨l₁, l₂, rfl, h₁, h₂, hrep, htail⟩ := schedFill_list h.rep hid hb priority avail
  have hother : ∀ x ∈ l₁ ++ l₂, ((schedFill s id priority avail).entries x).priority =
      (s.entries x).priority := by
    intro x hx
    have hne : x ≠ id := fun he => hid (he ▸ hx)
    exact (schedFill_same_ne s priority avail hne).priority
  have hself : ((schedFill s id priority avail).entries id).priority = priority :=
    (schedFill_self s id priority avail).priority
  refine ⟨l₁, l₂, rfl, hrep, ?_, htail h.tail, fun x hx => ?_⟩
  · have hle := pairwise_insert (r := fun x y =>
      ((schedFill s id priority avail).entries x).priority ≤
        ((schedFill s id priority avail).entries y).priority) (x := id)
      (fun _ _ _ => UInt64.le_trans) (h.order.congr hother)
    refine hle (fun y hy => ?_) (fun y hy => ?_)
    · rw [hother y (List.mem_append_left _ hy), hself]
      exact UInt64.le_of_lt (h₁ y hy)
    · rw [hother y (List.mem_append_right _ (List.mem_of_head? hy)), hself]
      exact UInt64.not_lt.mp (h₂ y hy)
  · rw [List.perm_middle.mem_iff, List.mem_cons] at hx
    obtain ⟨hxid, hxl⟩ := not_or.mp hx
    rw [(schedFill_same_ne s priority avail hxid).avail]
    exact h.idle x hxl

/-- Only the amount of an entry changes. -/
theorem SchedList.setAvail (h : SchedList s l) (hid : id ∈ l) (avail : UInt32) :
    SchedList (s.setEntry id { s.entries id with avail }) l := by
  have hfields : ∀ x, ((s.setEntry id { s.entries id with avail }).entries x).id = (s.entries x).id ∧
      ((s.setEntry id { s.entries id with avail }).entries x).nextEntry = (s.entries x).nextEntry ∧
      ((s.setEntry id { s.entries id with avail }).entries x).priority = (s.entries x).priority := by
    intro x
    by_cases hx : x = id
    · rw [hx, setEntry_self]
      exact ⟨rfl, rfl, rfl⟩
    · rw [setEntry_ne s _ hx]
      exact ⟨rfl, rfl, rfl⟩
  refine ⟨⟨?_, h.rep.nodup, h.rep.bound, fun x hx => ?_, fun x hx => ?_⟩, ?_, h.tail,
    fun x hx => ?_⟩
  · exact chain_congr (fun x _ => (hfields x).2.1) h.rep.chain
  · rw [(hfields x).1]
    exact h.rep.own x hx
  · rw [(hfields x).1]
    exact h.rep.free x hx
  · exact h.order.congr fun x _ => (hfields x).2.2
  · have hne : x ≠ id := fun he => hx (he ▸ hid)
    rw [setEntry_ne s _ hne]
    exact h.idle x hx

/-- After `sched_add` the entry has the amount given on top of what it had,
which is nothing where the id is not on the list. -/
theorem schedAdd_avail (h : SchedList s l) (id : UInt32) (priority : UInt64) (avail : UInt32) :
    ((schedAdd s id priority avail).1.entries id).avail = (s.entries id).avail + avail := by
  unfold schedAdd
  dsimp only
  split
  · split
    · rw [setEntry_self]
    · exact (schedFill_self _ _ _ _).avail
  · next hfree =>
    rw [(schedFill_self _ _ _ _).avail]
    have hid : id ∉ l := fun hm => hfree ((h.rep.mem_iff id).mpr hm)
    rw [h.idle id hid, UInt32.zero_add]

/-- **`sched_add` puts its id on the list**, and leaves the others in order. -/
theorem SchedList.add (h : SchedList s l) (hb : id.toNat < maxSchedEntries)
    (priority : UInt64) (avail : UInt32) :
    ∃ l', SchedList (schedAdd s id priority avail).1 l' ∧ id ∈ l' ∧ l'.erase id = l.erase id := by
  have herase : ∀ {l₁ l₂ : List UInt32}, id ∉ l₁ → (l₁ ++ id :: l₂).erase id = l₁ ++ l₂ := by
    intro l₁ l₂ hm
    rw [List.erase_append_right _ hm, List.erase_cons_head]
  unfold schedAdd
  by_cases hin : (s.entries id).id ≠ schedIdInvalid
  · have hmem := (h.rep.mem_iff id).mp hin
    simp only [if_pos hin]
    split
    · exact ⟨l, h.setAvail hmem _, hmem, rfl⟩
    · -- unlinked and inserted again
      obtain ⟨l₁, l₂, rfl, hid₁⟩ := List.eq_append_cons_of_mem hmem
      have hnd := List.nodup_cons.mp (List.perm_middle.nodup_iff.mp h.rep.nodup)
      obtain ⟨l₃, l₄, hl, hlist⟩ :=
        h.remove.fill hnd.1 hb priority ((s.entries id).avail + avail)
      have hid₃ : id ∉ l₃ := fun hm => hnd.1 (hl ▸ List.mem_append_left _ hm)
      refine ⟨_, hlist, by simp, ?_⟩
      rw [herase hid₃, herase hid₁, hl]
  · have hnot : id ∉ l := fun hm => hin ((h.rep.mem_iff id).mpr hm)
    rw [if_neg hin]
    obtain ⟨l₃, l₄, hl, hlist⟩ := h.fill hnot hb priority avail
    have hid₃ : id ∉ l₃ := fun hm => hnot (hl ▸ List.mem_append_left _ hm)
    refine ⟨_, hlist, by simp, ?_⟩
    rw [herase hid₃, List.erase_of_not_mem hnot, hl]

/-- `sched_pop` of an empty list fails and changes nothing. -/
theorem SchedList.pop_nil (h : SchedList s []) : schedPop s = (s, -1) := by
  have hh : s.head = schedIdInvalid := h.rep.chain.seg
  unfold schedPop
  rw [if_pos hh]

/-- Both list walks end by their own conditions, within the bound of the model. -/
theorem SchedList.walks_end (h : SchedList s l) (id : UInt32) :
    ((schedFind s id).2 = schedIdInvalid ∨ (schedFind s id).2 = id) ∧
    ((schedPlace s id).2 = schedIdInvalid ∨
      ¬(s.entries (schedPlace s id).2).priority < (s.entries id).priority) := by
  refine ⟨?_, ?_⟩
  · have hend := scan_ends (fun cur => cur == id) schedIdInvalid h.rep.chain h.rep.length_le
    exact hend.imp_right eq_of_beq
  · have hend := scan_ends
      (fun cur => !decide ((s.entries cur).priority < (s.entries id).priority))
      schedIdInvalid h.rep.chain h.rep.length_le
    refine hend.imp_right fun hstop hlt => ?_
    rw [Bool.not_eq_true'] at hstop
    exact of_decide_eq_false hstop hlt

end ops

/-! ## Runs -/

/-- A call that changes the scheduler. -/
inductive SchedCall
  | add (id : UInt32) (priority : UInt64) (avail : UInt32)
  | pop
  | remove (id : UInt32)

/-- The ids of a call are indices of the array. -/
def SchedCallOk (_ : Sched) : SchedCall → Prop
  | .add id _ _ | .remove id => id.toNat < maxSchedEntries
  | .pop => True

instance (s : Sched) (c : SchedCall) : Decidable (SchedCallOk s c) :=
  match c with
  | .add id _ _ | .remove id => inferInstanceAs (Decidable (id.toNat < maxSchedEntries))
  | .pop => .isTrue trivial

/-- One call, with what it returned. -/
def schedStep (s : Sched) : SchedCall → Sched × Int
  | .add id priority avail => schedAdd s id priority avail
  | .pop => schedPop s
  | .remove id => schedRemove s id

/-- **Every call keeps the list a priority list.** -/
theorem SchedList.step {s : Sched} {l : List UInt32} (h : SchedList s l) {c : SchedCall}
    (hc : SchedCallOk s c) : ∃ l', SchedList (schedStep s c).1 l' := by
  cases c with
  | add id priority avail =>
    obtain ⟨l', hl', -, -⟩ := h.add hc priority avail
    exact ⟨l', hl'⟩
  | pop =>
    cases l with
    | nil =>
      refine ⟨[], ?_⟩
      rw [schedStep, h.pop_nil]
      exact h
    | cons x l => exact ⟨l, h.pop.1⟩
  | remove id =>
    by_cases hid : id ∈ l
    · obtain ⟨l₁, l₂, rfl, -⟩ := List.eq_append_cons_of_mem hid
      exact ⟨_, h.remove⟩
    · refine ⟨l, ?_⟩
      rw [schedStep, schedRemove_absent h.rep hid]
      exact h

theorem schedRun_list {log : List Int} {s : Sched} (hr : Run SchedCallOk schedStep schedInit log s) :
    ∃ l, SchedList s l :=
  hr.inv (I := fun _ s => ∃ l, SchedList s l) ⟨[], schedInit_list⟩
    fun _ _ _ ⟨_, h⟩ hc => h.step hc

/-- What `sched_add` does to the priority list `l`. -/
structure AddSpec (s : Sched) (l : List UInt32) (id : UInt32) (priority : UInt64)
    (avail : UInt32) : Prop where
  ret : (schedAdd s id priority avail).2 = 0
  list : ∃ l', SchedList (schedAdd s id priority avail).1 l' ∧ id ∈ l' ∧ l'.erase id = l.erase id
  due : ((schedAdd s id priority avail).1.entries id).priority = priority
  amount : ((schedAdd s id priority avail).1.entries id).avail = (s.entries id).avail + avail
  others : ∀ x, x ≠ id → SameEntry (s.entries x) ((schedAdd s id priority avail).1.entries x)

/-- What `sched_remove` does to it. -/
structure RemoveSpec (s : Sched) (l : List UInt32) (id : UInt32) : Prop where
  absent : id ∉ l → schedRemove s id = (s, -1)
  present : id ∈ l → (schedRemove s id).2 = 0 ∧ SchedList (schedRemove s id).1 (l.erase id)
  others : ∀ x, x ≠ id → SameEntry (s.entries x) ((schedRemove s id).1.entries x)

/-- What `sched_pop` does to it. -/
structure PopSpec (s : Sched) (l : List UInt32) : Prop where
  empty : l = [] → schedPop s = (s, -1)
  first : ∀ x l', l = x :: l' → (schedPop s).2 = 0 ∧ SchedList (schedPop s).1 l' ∧
    (∀ y ∈ l, (s.entries x).priority ≤ (s.entries y).priority) ∧
    ∀ y, y ≠ x → SameEntry (s.entries y) ((schedPop s).1.entries y)

theorem SchedList.addSpec {s : Sched} {l : List UInt32} (h : SchedList s l) {id : UInt32}
    (hb : id.toNat < maxSchedEntries) (priority : UInt64) (avail : UInt32) :
    AddSpec s l id priority avail :=
  ⟨schedAdd_ret s id priority avail, h.add hb priority avail, schedAdd_priority s id priority avail,
    schedAdd_avail h id priority avail, fun _ hx => schedAdd_same_ne s priority avail hx⟩

theorem SchedList.removeSpec {s : Sched} {l : List UInt32} (h : SchedList s l) (id : UInt32) :
    RemoveSpec s l id := by
  refine ⟨schedRemove_absent h.rep, fun hid => ?_, fun _ hx => schedRemove_same_ne s hx⟩
  obtain ⟨l₁, l₂, rfl, hid₁⟩ := List.eq_append_cons_of_mem hid
  rw [List.erase_append_right _ hid₁, List.erase_cons_head]
  exact ⟨(schedRemove_list h.rep).2.1, h.remove⟩

theorem SchedList.popSpec {s : Sched} {l : List UInt32} (h : SchedList s l) : PopSpec s l := by
  refine ⟨?_, ?_⟩
  · intro hl
    subst hl
    exact h.pop_nil
  · intro x l' hl
    subst hl
    obtain ⟨hlist, hret, hsame⟩ := h.pop
    refine ⟨hret, hlist, fun y hy => ?_, hsame⟩
    rcases List.mem_cons.mp hy with rfl | hy
    · exact UInt64.le_refl _
    · exact List.rel_of_pairwise_cons h.order hy

/-- **The scheduler is a priority list** after any calls with ids of the array:
the links from `head` end after visiting each id whose entry is in use once,
in nondecreasing priority, and `tail` is the last (`SCHED_ID_INVALID` if there
is none); the list walks end; and a further call does to the list what
`AddSpec`, `RemoveSpec` and `PopSpec` say. -/
theorem sched_is_priority_list {log : List Int} {s : Sched}
    (hr : Run SchedCallOk schedStep schedInit log s) :
    ∃ l, Chain s.next schedIdInvalid s.head l ∧ l.Nodup ∧ DueInOrder s l ∧
      (∀ x, x ∈ l ↔ (s.entries x).id ≠ schedIdInvalid) ∧ (∀ x ∈ l, (s.entries x).id = x) ∧
      s.tail = l.getLast?.getD schedIdInvalid ∧
      (∀ id, ((schedFind s id).2 = schedIdInvalid ∨ (schedFind s id).2 = id) ∧
        ((schedPlace s id).2 = schedIdInvalid ∨
          ¬(s.entries (schedPlace s id).2).priority < (s.entries id).priority)) ∧
      (∀ id priority avail, id.toNat < maxSchedEntries → AddSpec s l id priority avail) ∧
      (∀ id, id.toNat < maxSchedEntries → RemoveSpec s l id) ∧
      PopSpec s l := by
  obtain ⟨l, h⟩ := schedRun_list hr
  refine ⟨l, h.rep.chain, h.rep.nodup, h.order, fun x => (h.rep.mem_iff x).symm, h.rep.own, h.tail,
    h.walks_end, ?_, ?_, h.popSpec⟩
  · intro id priority avail hb
    exact h.addSpec hb priority avail
  · intro id _
    exact h.removeSpec id

/-- Three ids of which one moves to the end and one leaves. -/
theorem sched_is_priority_list_move :
    ∃ log s, Run SchedCallOk schedStep schedInit log s ∧
      (∃ l, Chain s.next schedIdInvalid s.head l ∧ l.Nodup) ∧ (s.entries 4).avail = 30 := by
  have hrun := Run.execOk [.add 4 10 10, .add 9 12 5, .add 4 15 20, .pop]
    (Run.nil : Run SchedCallOk schedStep schedInit [] _) (by decide +kernel)
  obtain ⟨l, hc, hnd, -⟩ := sched_is_priority_list hrun
  exact ⟨_, _, hrun, ⟨l, hc, hnd⟩, by decide +kernel⟩

end Chamelio.Util
