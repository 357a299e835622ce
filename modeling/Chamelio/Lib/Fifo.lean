import Mathlib.Algebra.GroupWithZero.Nat

/-!
# Bounded FIFO queues and what is in flight

A single-producer single-consumer queue seen as the list of entries that
were enqueued and not yet dequeued, at most `nelems` of them. The facts
conservation arguments need are about totals: what an entry carries is in
flight from the moment it is pushed until it is popped.
-/

namespace Chamelio.Lib

structure Fifo (α : Type) where
  /-- Entries in the queue, oldest first. -/
  items : List α
  /-- Number of slots. -/
  nelems : Nat

namespace Fifo

variable {α : Type}

/-- `queue_tail(q) != NULL`: the slot at the tail is empty. -/
def hasRoom (q : Fifo α) : Bool := q.items.length < q.nelems

/-- Fill the tail entry and enqueue it; `none` when the queue is full. -/
def push (q : Fifo α) (x : α) : Option (Fifo α) :=
  if q.hasRoom then some { q with items := q.items ++ [x] } else none

/-- `queue_head`. -/
def head? (q : Fifo α) : Option α := q.items.head?

/-- `queue_dequeue`. -/
def pop (q : Fifo α) : Fifo α := { q with items := q.items.tail }

/-- Total of a quantity over the entries in flight. -/
def sum (f : α → Nat) (q : Fifo α) : Nat := (q.items.map f).sum

/-- An entry goes to the back. -/
theorem push_items {q q' : Fifo α} {x : α} (h : q.push x = some q') :
    q'.items = q.items ++ [x] := by
  unfold push at h
  split at h
  · cases h; rfl
  · cases h

/-- A push with room succeeds. -/
theorem push_of_room {q : Fifo α} (h : q.hasRoom = true) (x : α) :
    q.push x = some { q with items := q.items ++ [x] } := if_pos h

/-- Room stays until the producer pushes. -/
theorem pop_room {q : Fifo α} (h : q.hasRoom = true) : q.pop.hasRoom = true := by
  unfold hasRoom at h ⊢
  rw [decide_eq_true_eq] at h ⊢
  show q.items.tail.length < q.nelems
  rw [List.length_tail]
  omega

theorem push_sum {q q' : Fifo α} {x : α} (f : α → Nat) (h : q.push x = some q') :
    q'.sum f = q.sum f + f x := by
  unfold sum
  rw [push_items h]
  simp

/-- The head is the oldest entry. -/
theorem head_cons {q : Fifo α} {x : α} (h : q.head? = some x) :
    q.items = x :: q.pop.items := by
  unfold head? at h
  unfold pop
  cases hi : q.items with
  | nil => rw [hi] at h; cases h
  | cons y ys => rw [hi] at h; cases h; rfl

theorem pop_sum {q : Fifo α} {x : α} (f : α → Nat) (h : q.head? = some x) :
    q.sum f = f x + q.pop.sum f := by
  unfold sum
  rw [head_cons h]
  simp

/-- What is left was there before. -/
theorem pop_mem {q : Fifo α} {y : α} (h : y ∈ q.pop.items) : y ∈ q.items :=
  List.mem_of_mem_tail h

theorem head_mem {q : Fifo α} {x : α} (h : q.head? = some x) : x ∈ q.items := by
  rw [head_cons h]
  exact List.mem_cons_self

/-- What a push adds is the entry. -/
theorem mem_push {q q' : Fifo α} {x y : α} (h : q.push x = some q') :
    y ∈ q'.items ↔ y ∈ q.items ∨ y = x := by
  rw [push_items h]
  simp

theorem le_sum {q : Fifo α} {x : α} (f : α → Nat) (h : q.head? = some x) :
    f x ≤ q.sum f := by
  rw [pop_sum f h]
  omega

/-- Total of a quantity over the queues with index below `n`. -/
def sumBelow (f : α → Nat) (n : Nat) (qs : Nat → Fifo α) : Nat :=
  ((List.range n).map fun i => (qs i).sum f).sum

theorem sumBelow_succ (f : α → Nat) (n : Nat) (qs : Nat → Fifo α) :
    sumBelow f (n + 1) qs = sumBelow f n qs + (qs n).sum f := by
  unfold sumBelow
  rw [List.range_succ, List.map_append, List.sum_append, List.map_singleton, List.sum_singleton]

/-- One queue changes. -/
theorem sumBelow_change {f : α → Nat} {n i : Nat} {qs qs' : Nat → Fifo α} (hi : i < n)
    (h : ∀ j, j ≠ i → qs' j = qs j) :
    sumBelow f n qs' + (qs i).sum f = sumBelow f n qs + (qs' i).sum f := by
  induction n with
  | zero => exact absurd hi (Nat.not_lt_zero i)
  | succ n ih =>
    rw [sumBelow_succ, sumBelow_succ]
    by_cases hin : i = n
    · have hsame : ∀ m, m ≤ i → sumBelow f m qs' = sumBelow f m qs := by
        intro m hm
        unfold sumBelow
        congr 1
        apply List.map_congr_left
        intro j hj
        rw [h j (by have := List.mem_range.mp hj; omega)]
      have hn := hsame n (by omega)
      rw [← hin] at hn ⊢
      omega
    · rw [h n (by omega)]
      have := ih (by omega)
      omega

theorem sumBelow_empty {f : α → Nat} {qs : Nat → Fifo α} (h : ∀ i, (qs i).items = []) (n : Nat) :
    sumBelow f n qs = 0 := by
  induction n with
  | zero => rfl
  | succ n ih =>
    rw [sumBelow_succ, ih]
    unfold sum
    rw [h]
    rfl

end Fifo

end Chamelio.Lib
