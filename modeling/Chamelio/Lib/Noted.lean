/-!
# Computations that note what they use

A value next to the list of the uses that were made on the way to it, in
order. `note` makes one; the rest of the computation is written as it would
be without, and `val` is that computation again. `Noted.All P` says that
every use satisfies `P`, and goes through a computation step by step.
-/

namespace Chamelio.Lib

/-- A value and the uses made on the way to it. -/
structure Noted (υ α : Type) where
  uses : List υ
  val : α

namespace Noted

variable {υ α β : Type}

instance : Monad (Noted υ) where
  pure a := { uses := [], val := a }
  bind x f := { uses := x.uses ++ (f x.val).uses, val := (f x.val).val }

/-- Nothing is noted, and nothing computed. -/
@[simp] theorem val_pure (a : α) : (pure a : Noted υ α).val = a := rfl

/-- Notes do not change what is computed. -/
@[simp] theorem val_bind (x : Noted υ α) (f : α → Noted υ β) : (x >>= f).val = (f x.val).val := rfl

/-- Every use satisfies `P`. -/
def All (P : υ → Prop) (x : Noted υ α) : Prop := ∀ u ∈ x.uses, P u

variable {P : υ → Prop}

@[simp] theorem all_pure (a : α) : All P (pure a : Noted υ α) := by
  intro u hu
  cases hu

/-- Of two computations in a row, the second goes on with the value of the first. -/
@[simp] theorem all_bind {x : Noted υ α} {f : α → Noted υ β} :
    All P (x >>= f) ↔ All P x ∧ All P (f x.val) :=
  List.forall_mem_append

end Noted

/-- These uses are made. -/
def note {υ : Type} (us : List υ) : Noted υ Unit := { uses := us, val := () }

theorem all_note {υ : Type} {P : υ → Prop} {us : List υ} :
    Noted.All P (note us) ↔ ∀ u ∈ us, P u := Iff.rfl

theorem all_note_one {υ : Type} {P : υ → Prop} {u : υ} : Noted.All P (note [u]) ↔ P u := by
  rw [all_note, List.forall_mem_singleton]

theorem all_note_cons {υ : Type} {P : υ → Prop} {u : υ} {us : List υ} :
    Noted.All P (note (u :: us)) ↔ P u ∧ Noted.All P (note us) := List.forall_mem_cons

namespace Noted

variable {υ α β : Type} {P : υ → Prop}

/-- The first result of `f` on the elements of a list. -/
def findSome? (f : α → Noted υ (Option β)) : List α → Noted υ (Option β)
  | [] => pure none
  | a :: l => do
    match ← f a with
    | some b => return some b
    | none => findSome? f l

/-- Notes do not change what is found. -/
theorem val_findSome? (f : α → Noted υ (Option β)) (l : List α) :
    (findSome? f l).val = l.findSome? fun a => (f a).val := by
  induction l with
  | nil => rfl
  | cons a l ih =>
    rw [findSome?, val_bind, List.findSome?_cons]
    cases (f a).val with
    | none => exact ih
    | some b => rfl

/-- The elements looked at are some of the list. -/
theorem all_findSome? {f : α → Noted υ (Option β)} {l : List α} (h : ∀ a ∈ l, All P (f a)) :
    All P (findSome? f l) := by
  induction l with
  | nil => exact all_pure none
  | cons a l ih =>
    rw [findSome?]
    refine all_bind.mpr ⟨h a List.mem_cons_self, ?_⟩
    cases (f a).val with
    | none => exact ih fun b hb => h b (List.mem_cons_of_mem a hb)
    | some b => exact all_pure _

end Noted

end Chamelio.Lib
