/-!
# Index-linked lists

A list threaded through an array by "next" indices, ended by a sentinel.
`Seg next h l e` says that walking from `h` visits exactly `l` and arrives
at `e`; a `Chain` is a segment that arrives at the sentinel and never
visits it. The three edits such code makes — unlink a node, link a node
in, scan for a position — are each one lemma over the two halves of the
list, so a data structure built on them never unfolds the walk.
-/

namespace Chamelio.Lib

section

variable {α : Type} [DecidableEq α]

/-- One index redirected. -/
def redirect (next : α → α) (p m : α) : α → α :=
  fun x => if x = p then m else next x

theorem redirect_self (next : α → α) (p m : α) : redirect next p m p = m := by
  unfold redirect
  rw [if_pos rfl]

theorem redirect_ne (next : α → α) {p x : α} (m : α) (h : x ≠ p) :
    redirect next p m x = next x := by
  unfold redirect
  rw [if_neg h]

/-- Walking `next` from `h` visits exactly `l` and arrives at `e`. -/
def Seg (next : α → α) : α → List α → α → Prop
  | h, [], e => h = e
  | h, x :: xs, e => h = x ∧ Seg next (next x) xs e

/-- A finite list from `h` to the sentinel `nil`. -/
structure Chain (next : α → α) (nil h : α) (l : List α) : Prop where
  seg : Seg next h l nil
  ne : ∀ x ∈ l, x ≠ nil

omit [DecidableEq α] in
theorem seg_append {next : α → α} {h e : α} {l₁ l₂ : List α} :
    Seg next h (l₁ ++ l₂) e ↔ ∃ m, Seg next h l₁ m ∧ Seg next m l₂ e := by
  induction l₁ generalizing h with
  | nil => exact ⟨fun hs => ⟨h, rfl, hs⟩, fun ⟨m, hm, hs⟩ => hm ▸ hs⟩
  | cons x xs ih =>
    constructor
    · rintro ⟨rfl, hs⟩
      obtain ⟨m, h₁, h₂⟩ := ih.mp hs
      exact ⟨m, ⟨rfl, h₁⟩, h₂⟩
    · rintro ⟨m, ⟨rfl, h₁⟩, h₂⟩
      exact ⟨rfl, ih.mpr ⟨m, h₁, h₂⟩⟩

omit [DecidableEq α] in
/-- A walk only reads the nodes it visits. -/
theorem seg_congr {next next' : α → α} {h e : α} {l : List α}
    (heq : ∀ x ∈ l, next' x = next x) (hs : Seg next h l e) : Seg next' h l e := by
  induction l generalizing h with
  | nil => exact hs
  | cons x xs ih =>
    refine ⟨hs.1, ?_⟩
    rw [heq x (List.mem_cons_self)]
    exact ih (fun y hy => heq y (List.mem_cons_of_mem _ hy)) hs.2

/-- Redirecting a node off the walk changes nothing. -/
theorem seg_redirect_of_not_mem {next : α → α} {h e p : α} {l : List α} (m : α)
    (hp : p ∉ l) (hs : Seg next h l e) : Seg (redirect next p m) h l e := by
  refine seg_congr (fun x hx => redirect_ne next m ?_) hs
  intro he
  exact hp (he ▸ hx)

/-- Redirecting the last node of a walk changes where it arrives. -/
theorem seg_redirect_last {next : α → α} {h e p : α} {l : List α} (m : α)
    (hp : p ∉ l) (hs : Seg next h (l ++ [p]) e) :
    Seg (redirect next p m) h (l ++ [p]) m := by
  obtain ⟨q, h₁, h₂⟩ := seg_append.mp hs
  refine seg_append.mpr ⟨q, seg_redirect_of_not_mem m hp h₁, h₂.1, ?_⟩
  exact redirect_self next p m

omit [DecidableEq α] in
/-- The first node of a chain, or the sentinel. -/
theorem chain_head {next : α → α} {nil h : α} {l : List α}
    (hc : Chain next nil h l) : h = l.head?.getD nil := by
  cases l with
  | nil => exact hc.seg
  | cons x xs => exact hc.seg.1

omit [DecidableEq α] in
theorem chain_nil_iff {next : α → α} {nil h : α} {l : List α}
    (hc : Chain next nil h l) : h = nil ↔ l = [] := by
  cases l with
  | nil => exact ⟨fun _ => rfl, fun _ => hc.seg⟩
  | cons x xs =>
    refine ⟨fun hh => ?_, fun hl => by cases hl⟩
    exact absurd (hc.seg.1.symm.trans hh) (hc.ne x List.mem_cons_self)

omit [DecidableEq α] in
theorem chain_congr {next next' : α → α} {nil h : α} {l : List α}
    (heq : ∀ x ∈ l, next' x = next x) (hc : Chain next nil h l) :
    Chain next' nil h l :=
  ⟨seg_congr heq hc.seg, hc.ne⟩

omit [DecidableEq α] in
theorem chain_tail {next : α → α} {nil h x : α} {l : List α}
    (hc : Chain next nil h (x :: l)) : Chain next nil (next x) l :=
  ⟨hc.seg.2, fun y hy => hc.ne y (List.mem_cons_of_mem _ hy)⟩

omit [DecidableEq α] in
theorem chain_cons {next : α → α} {nil x : α} {l : List α} (hx : x ≠ nil)
    (hc : Chain next nil (next x) l) : Chain next nil x (x :: l) := by
  refine ⟨⟨rfl, hc.seg⟩, fun y hy => ?_⟩
  rcases List.mem_cons.mp hy with rfl | hy
  · exact hx
  · exact hc.ne y hy

/-- Unlinking: the predecessor `p` of `x` is redirected past it. -/
theorem chain_unlink {next : α → α} {nil h p x : α} {l₁ l₂ : List α}
    (hp : p ∉ l₁) (hp₂ : p ∉ l₂) (hc : Chain next nil h (l₁ ++ [p] ++ x :: l₂)) :
    Chain (redirect next p (next x)) nil h (l₁ ++ [p] ++ l₂) := by
  obtain ⟨m, h₁, h₂⟩ := seg_append.mp hc.seg
  refine ⟨seg_append.mpr ⟨next x, seg_redirect_last _ hp h₁, ?_⟩, fun y hy => ?_⟩
  · exact seg_redirect_of_not_mem _ hp₂ h₂.2
  · apply hc.ne y
    rcases List.mem_append.mp hy with hy | hy
    · exact List.mem_append_left _ hy
    · exact List.mem_append_right _ (List.mem_cons_of_mem _ hy)

/-- Linking in: a fresh node `x` that already points at the second half is
hung off the last node `p` of the first half. -/
theorem chain_link {next : α → α} {nil h p x : α} {l₁ l₂ : List α}
    (hp : p ∉ l₁) (hp₂ : p ∉ l₂) (hx : x ∉ l₁ ++ [p] ++ l₂) (hnil : x ≠ nil)
    (hnext : next x = l₂.head?.getD nil) (hc : Chain next nil h (l₁ ++ [p] ++ l₂)) :
    Chain (redirect next p x) nil h (l₁ ++ [p] ++ x :: l₂) := by
  have hxp : x ≠ p := by
    intro he
    exact hx (by simp [he])
  obtain ⟨m, h₁, h₂⟩ := seg_append.mp hc.seg
  have hm : m = l₂.head?.getD nil :=
    chain_head ⟨h₂, fun y hy => hc.ne y (List.mem_append_right _ hy)⟩
  refine ⟨seg_append.mpr ⟨x, seg_redirect_last _ hp h₁, rfl, ?_⟩, fun y hy => ?_⟩
  · rw [redirect_ne next x hxp, hnext, ← hm]
    exact seg_redirect_of_not_mem _ hp₂ h₂
  · rcases List.mem_append.mp hy with hy | hy
    · exact hc.ne y (List.mem_append_left _ hy)
    · rcases List.mem_cons.mp hy with rfl | hy
      · exact hnil
      · exact hc.ne y (List.mem_append_right _ hy)

/-- Appending: a fresh node that ends the list is hung off its last node. -/
theorem chain_append {next : α → α} {nil h z x : α} {l : List α} (hz : z ∉ l)
    (hx : x ∉ l ++ [z]) (hnil : x ≠ nil) (hc : Chain next nil h (l ++ [z])) :
    Chain (redirect (redirect next x nil) z x) nil h (l ++ [z] ++ [x]) := by
  refine chain_link hz (List.not_mem_nil) ?_ hnil (redirect_self next x nil) ?_
  · rwa [List.append_nil]
  · rw [List.append_nil]
    exact ⟨seg_redirect_of_not_mem nil hx hc.seg, hc.ne⟩

omit [DecidableEq α] in
/-- The last node of a chain points at the sentinel. -/
theorem chain_last {next : α → α} {nil h z : α} {l : List α} (hc : Chain next nil h (l ++ [z])) :
    next z = nil := by
  obtain ⟨m, -, -, hz⟩ := seg_append.mp hc.seg
  exact hz

omit [DecidableEq α] in
/-- Each node points at the one behind it. -/
theorem chain_next {next : α → α} {nil h x y : α} {l₁ l₂ : List α}
    (hc : Chain next nil h (l₁ ++ x :: y :: l₂)) : next x = y := by
  obtain ⟨m, -, -, hy, -⟩ := seg_append.mp hc.seg
  exact hy

/-! ## Scanning -/

/-- The search loop `while (cur != nil && !stop(cur)) { prev = cur; cur =
next[cur]; }`, with a bound on its iterations; the result is the final
`(prev, cur)`. -/
def scan (next : α → α) (nil : α) (stop : α → Bool) : Nat → α → α → α × α
  | 0, prev, cur => (prev, cur)
  | n + 1, prev, cur =>
    if cur ≠ nil ∧ stop cur = false then scan next nil stop n cur (next cur)
    else (prev, cur)

/-- On a chain no longer than the bound, split where `stop` first holds, the
scan ends at the first node of the second half (or the sentinel), with
`prev` the last node of the first. -/
theorem scan_split {next : α → α} {nil : α} (stop : α → Bool) {l₁ l₂ : List α} {n : Nat}
    {prev cur : α} (hc : Chain next nil cur (l₁ ++ l₂)) (hn : (l₁ ++ l₂).length ≤ n)
    (h₁ : ∀ x ∈ l₁, stop x = false) (h₂ : ∀ x, l₂.head? = some x → stop x = true) :
    scan next nil stop n prev cur = (l₁.getLast?.getD prev, l₂.head?.getD nil) := by
  induction l₁ generalizing n prev cur with
  | nil =>
    have hcur : cur = l₂.head?.getD nil := chain_head hc
    cases n with
    | zero => rw [← hcur]; rfl
    | succ n =>
      unfold scan
      rw [if_neg, ← hcur]
      · rfl
      · rintro ⟨hne, hstop⟩
        cases l₂ with
        | nil => exact hne hcur
        | cons y ys =>
          have hy : cur = y := hcur
          rw [hy, h₂ y rfl] at hstop
          cases hstop
  | cons x xs ih =>
    obtain ⟨rfl, hs⟩ := hc.seg
    cases n with
    | zero => simp at hn
    | succ n =>
      have hne := hc.ne cur List.mem_cons_self
      unfold scan
      rw [if_pos ⟨hne, h₁ cur List.mem_cons_self⟩,
        ih (chain_tail hc) (by simpa using hn)
          (fun y hy => h₁ y (List.mem_cons_of_mem _ hy))]
      simp only [List.getLast?_cons, Option.getD_some]

omit [DecidableEq α] in
/-- Every list splits where a condition first holds. -/
theorem exists_split (stop : α → Bool) (l : List α) :
    ∃ l₁ l₂, l = l₁ ++ l₂ ∧ (∀ x ∈ l₁, stop x = false) ∧
      ∀ x, l₂.head? = some x → stop x = true := by
  induction l with
  | nil => exact ⟨[], [], rfl, by simp, by simp⟩
  | cons x xs ih =>
    obtain ⟨l₁, l₂, hl, h₁, h₂⟩ := ih
    by_cases hx : stop x = true
    · exact ⟨[], x :: xs, rfl, by simp, by simpa using hx⟩
    · refine ⟨x :: l₁, l₂, by rw [hl]; rfl, fun y hy => ?_, h₂⟩
      rcases List.mem_cons.mp hy with rfl | hy
      · simpa using hx
      · exact h₁ y hy

/-- On a chain no longer than the bound the scan ends by its own condition. -/
theorem scan_ends {next : α → α} {nil : α} (stop : α → Bool) {l : List α} {n : Nat}
    (prev : α) {cur : α} (hc : Chain next nil cur l) (hn : l.length ≤ n) :
    (scan next nil stop n prev cur).2 = nil ∨ stop (scan next nil stop n prev cur).2 = true := by
  obtain ⟨l₁, l₂, rfl, h₁, h₂⟩ := exists_split stop l
  rw [scan_split stop hc hn h₁ h₂]
  cases l₂ with
  | nil => exact .inl rfl
  | cons y l₃ => exact .inr (h₂ y rfl)

end

end Chamelio.Lib
