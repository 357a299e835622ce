import Chamelio.Util.Tomgr

/-!
# The heap order of the timeout manager (`lib/utils/tomgr/tomgr.c`)

Every operation leaves the array of heap entries in heap order, so the root
is an entry with the least timeout. The order is broken at one position at a
time: above it while `heapify_up` runs (`UpOrder`), below it while
`heapify_down` runs (`DownOrder`). In both cases the children of that position
are still in order with its parent, which is what makes a single swap enough.

Mirroring notes: `key` is the timeout of a heap position as a number, so that
the comparisons of the source are comparisons of naturals.
-/

namespace Chamelio.Util

namespace Tomgr

variable {δ : Type}

/-- The timeout at a heap position. -/
def key (m : Tomgr δ) (p : Nat) : Nat := (m.heap p).timeout.toNat

/-- **Heap order**: no position is earlier than its parent. -/
def Ordered (m : Tomgr δ) : Prop := ∀ p, 0 < p → p < m.size → m.key (parent p) ≤ m.key p

/-- In order except between `idx` and its parent. -/
structure UpOrder (m : Tomgr δ) (idx : Nat) : Prop where
  except : ∀ p, 0 < p → p < m.size → p ≠ idx → m.key (parent p) ≤ m.key p
  grand : ∀ p, 0 < p → p < m.size → 0 < idx → parent p = idx → m.key (parent idx) ≤ m.key p

/-- In order except between `idx` and its children. -/
structure DownOrder (m : Tomgr δ) (idx : Nat) : Prop where
  except : ∀ p, 0 < p → p < m.size → parent p ≠ idx → m.key (parent p) ≤ m.key p
  grand : ∀ p, 0 < p → p < m.size → 0 < idx → parent p = idx → m.key (parent idx) ≤ m.key p

theorem timeout_lt_iff (m : Tomgr δ) (p q : Nat) :
    (m.heap p).timeout < (m.heap q).timeout ↔ m.key p < m.key q :=
  UInt64.lt_iff_toNat_lt

theorem key_swap (m : Tomgr δ) (a b q : Nat) :
    (m.swap a b).key q = m.key (if q = b then a else if q = a then b else q) := by
  unfold key
  rw [swap_heap]

theorem key_swap_left (m : Tomgr δ) {a b : Nat} (h : a ≠ b) : (m.swap a b).key a = m.key b := by
  rw [key_swap, if_neg h, if_pos rfl]

theorem key_swap_right (m : Tomgr δ) (a b : Nat) : (m.swap a b).key b = m.key a := by
  rw [key_swap, if_pos rfl]

theorem key_swap_other (m : Tomgr δ) {a b q : Nat} (ha : q ≠ a) (hb : q ≠ b) :
    (m.swap a b).key q = m.key q := by
  rw [key_swap, if_neg hb, if_neg ha]

/-! ## `heapify_up` -/

/-- One swap moves the disorder up to the parent. -/
theorem UpOrder.move {m : Tomgr δ} {idx : Nat} (h : m.UpOrder idx) (hpos : 0 < idx)
    (hlt : idx < m.size) (hless : m.key idx < m.key (parent idx)) :
    (m.swap idx (parent idx)).UpOrder (parent idx) := by
  have hpar := parent_lt hpos
  have hne : idx ≠ parent idx := by omega
  -- the parent's own place above is in order
  have hup : 0 < parent idx → m.key (parent (parent idx)) ≤ m.key (parent idx) := fun hq =>
    h.except (parent idx) hq (by omega) (by omega)
  refine ⟨fun p hp hps hpq => ?_, fun p hp hps hq hpp => ?_⟩
  · change p < m.size at hps
    have hpp := parent_lt hp
    by_cases hpi : p = idx
    · rw [hpi, key_swap_right, key_swap_left m hne]
      omega
    · rw [key_swap_other m hpi hpq]
      by_cases h₁ : parent p = idx
      · rw [h₁, key_swap_left m hne]
        exact h.grand p hp hps hpos h₁
      · by_cases h₂ : parent p = parent idx
        · have := h.except p hp hps hpi
          rw [h₂, key_swap_right]
          rw [h₂] at this
          omega
        · rw [key_swap_other m h₁ h₂]
          exact h.except p hp hps hpi
  · change p < m.size at hps
    have hpq := parent_lt hq
    have habove := hup hq
    have hpp' := parent_lt hp
    rw [key_swap_other m (by omega) (by omega)]
    by_cases hpi : p = idx
    · rw [hpi, key_swap_left m hne]
      exact habove
    · have := h.except p hp hps hpi
      rw [hpp] at this
      rw [key_swap_other m hpi (by omega)]
      omega

theorem heapifyUpLoop_ordered (n : Nat) {m : Tomgr δ} {idx : Nat} (hfuel : idx ≤ n)
    (hlt : idx < m.size) (h : m.UpOrder idx) : (heapifyUpLoop n m idx).Ordered := by
  induction n generalizing m idx with
  | zero => exact fun p hp hps => h.except p hp hps (by omega)
  | succ n ih =>
    rw [heapifyUpLoop]
    split
    · next hc =>
      have hpar := parent_lt hc.1
      rw [timeout_lt_iff] at hc
      exact ih (by omega) (Nat.lt_trans hpar hlt) (h.move hc.1 hlt hc.2)
    · next hc =>
      rw [timeout_lt_iff] at hc
      intro p hp hps
      by_cases hpi : p = idx
      · rw [hpi] at hp ⊢
        omega
      · exact h.except p hp hps hpi

theorem heapifyUp_ordered {m : Tomgr δ} {idx : Nat} (hlt : idx < m.size) (h : m.UpOrder idx) :
    (m.heapifyUp idx).Ordered :=
  heapifyUpLoop_ordered idx (Nat.le_refl idx) hlt h

/-! ## `heapify_down` -/

/-- Where `heapify_down` goes: to the least of a position and its children. -/
structure Least (m : Tomgr δ) (idx s : Nat) : Prop where
  place : s = idx ∨ 0 < s ∧ parent s = idx ∧ s < m.size ∧ m.key s < m.key idx
  le : m.key s ≤ m.key idx
  child : ∀ p, 0 < p → p < m.size → parent p = idx → m.key s ≤ m.key p

theorem smallest_least (m : Tomgr δ) (idx : Nat) : m.Least idx (m.smallest idx) := by
  have hchild : ∀ p, 0 < p → parent p = idx → p = left idx ∨ p = right idx := by
    intro p hp h
    unfold parent at h
    unfold left right
    omega
  have hl : parent (left idx) = idx := by unfold parent left; omega
  have hr : parent (right idx) = idx := by unfold parent right; omega
  have hl0 : 0 < left idx := by unfold left; omega
  have hr0 : 0 < right idx := by unfold right; omega
  unfold smallest
  simp only [timeout_lt_iff]
  by_cases h₁ : left idx < m.size ∧ m.key (left idx) < m.key idx
  · rw [if_pos h₁]
    by_cases h₂ : right idx < m.size ∧ m.key (right idx) < m.key (left idx)
    · rw [if_pos h₂]
      refine ⟨.inr ⟨hr0, hr, h₂.1, by omega⟩, by omega, fun p hp hps hpp => ?_⟩
      rcases hchild p hp hpp with rfl | rfl <;> omega
    · rw [if_neg h₂]
      refine ⟨.inr ⟨hl0, hl, h₁.1, h₁.2⟩, by omega, fun p hp hps hpp => ?_⟩
      rcases hchild p hp hpp with rfl | rfl <;> omega
  · rw [if_neg h₁]
    by_cases h₂ : right idx < m.size ∧ m.key (right idx) < m.key idx
    · rw [if_pos h₂]
      refine ⟨.inr ⟨hr0, hr, h₂.1, h₂.2⟩, by omega, fun p hp hps hpp => ?_⟩
      rcases hchild p hp hpp with rfl | rfl <;> omega
    · rw [if_neg h₂]
      refine ⟨.inl rfl, Nat.le_refl _, fun p hp hps hpp => ?_⟩
      rcases hchild p hp hpp with rfl | rfl <;> omega

/-- One swap moves the disorder down to the least child. -/
theorem DownOrder.move {m : Tomgr δ} {idx s : Nat} (h : m.DownOrder idx) (hs : m.Least idx s)
    (hne : s ≠ idx) : (m.swap idx s).DownOrder s := by
  obtain ⟨hs0, hpar, hsize, hless⟩ := hs.place.resolve_left hne
  have hlt : idx < s := hpar ▸ parent_lt hs0
  refine ⟨fun p hp hps hpp => ?_, fun p hp hps _ hpp => ?_⟩
  · change p < m.size at hps
    have hpar' := parent_lt hp
    by_cases h₁ : parent p = idx
    · rw [h₁, key_swap_left m hne.symm]
      by_cases h₂ : p = s
      · rw [h₂, key_swap_right]
        omega
      · rw [key_swap_other m (by omega) h₂]
        exact hs.child p hp hps h₁
    · rw [key_swap_other m h₁ hpp]
      by_cases h₂ : p = idx
      · rw [h₂, key_swap_left m hne.symm]
        exact h.grand s hs0 hsize (by omega) hpar
      · rw [key_swap_other m h₂ (by rintro rfl; exact h₁ hpar)]
        exact h.except p hp hps h₁
  · change p < m.size at hps
    have hpar' := parent_lt hp
    have hle := h.except p hp hps (by omega)
    rw [hpp] at hle
    rw [hpar, key_swap_left m hne.symm, key_swap_other m (by omega) (by omega)]
    exact hle

theorem heapifyDownLoop_ordered (n : Nat) {m : Tomgr δ} {idx : Nat} (hfuel : m.size ≤ idx + n)
    (h : m.DownOrder idx) : (heapifyDownLoop n m idx).Ordered := by
  induction n generalizing m idx with
  | zero =>
    intro p hp hps
    change p < m.size at hps
    have := parent_lt hp
    exact h.except p hp hps (by omega)
  | succ n ih =>
    rw [heapifyDownLoop]
    have hs := smallest_least m idx
    split
    · next hne =>
      obtain ⟨hs0, hpar, -, -⟩ := hs.place.resolve_left hne
      have := parent_lt hs0
      exact ih (by rw [swap_size]; omega) (h.move hs hne)
    · next heq =>
      rw [ne_eq, Decidable.not_not] at heq
      rw [heq] at hs
      intro p hp hps
      by_cases hpp : parent p = idx
      · rw [hpp]
        exact hs.child p hp hps hpp
      · exact h.except p hp hps hpp

theorem heapifyDown_ordered {m : Tomgr δ} {idx : Nat} (h : m.DownOrder idx) :
    (m.heapifyDown idx).Ordered :=
  heapifyDownLoop_ordered m.size (by omega) h

/-- The root of an ordered heap is the least. -/
theorem Ordered.root {m : Tomgr δ} (h : m.Ordered) (p : Nat) (hp : p < m.size) :
    m.key 0 ≤ m.key p := by
  induction p using Nat.strongRecOn with
  | _ p ih =>
    by_cases h0 : p = 0
    · exact Nat.le_of_eq (by rw [h0])
    · have hpar := parent_lt (Nat.pos_of_ne_zero h0)
      have h₁ := ih (parent p) hpar (by omega)
      have h₂ := h p (Nat.pos_of_ne_zero h0) hp
      omega

/-! ## What a reordering writes -/

/-- `m'` shows callers the entries of `m`, and has not touched the slots of
entries that are not live. -/
structure Quiet (m m' : Tomgr δ) : Prop where
  type : ∀ e, (m'.entries e).type = (m.entries e).type
  timeout : ∀ e, (m'.entries e).timeout = (m.entries e).timeout
  data : ∀ e, (m'.entries e).data = (m.entries e).data
  slot : ∀ e, ¬ m.Live e → (m'.entries e).heapIdx = (m.entries e).heapIdx

theorem Quiet.refl (m : Tomgr δ) : Quiet m m :=
  ⟨fun _ => rfl, fun _ => rfl, fun _ => rfl, fun _ _ => rfl⟩

theorem Quiet.trans {m₁ m₂ m₃ : Tomgr δ} (h₁ : Quiet m₁ m₂) (hlive : ∀ e, m₂.Live e ↔ m₁.Live e)
    (h₂ : Quiet m₂ m₃) : Quiet m₁ m₃ :=
  ⟨fun e => (h₂.type e).trans (h₁.type e), fun e => (h₂.timeout e).trans (h₁.timeout e),
    fun e => (h₂.data e).trans (h₁.data e), fun e he =>
      (h₂.slot e fun h => he ((hlive e).mp h)).trans (h₁.slot e he)⟩

theorem setHeapIdx_type (m : Tomgr δ) (i p e : Nat) :
    ((m.setHeapIdx i p).entries e).type = (m.entries e).type := by
  unfold setHeapIdx setEntry
  dsimp only
  split
  · next h => rw [h]
  · rfl

theorem swap_quiet {m : Tomgr δ} {a b : Nat} (ha : a < m.size) (hb : b < m.size) :
    Quiet m (m.swap a b) := by
  unfold swap
  refine ⟨fun e => ?_, fun e => ?_, fun e => ?_, fun e he => ?_⟩
  · dsimp only
    rw [setHeapIdx_type, setHeapIdx_type]
    rfl
  · dsimp only
    rw [setHeapIdx_to, setHeapIdx_to]
    rfl
  · dsimp only
    rw [setHeapIdx_data, setHeapIdx_data]
    rfl
  · -- the two positions written belong to live entries
    have hother : ∀ q, q < m.size → e ≠ (m.heap q).idx := fun q hq h => he ⟨q, hq, h.symm⟩
    have hpos : ∀ q, q = a ∨ q = b →
        e ≠ ((((m.setHeap a (m.heap b)).setHeap b (m.heap a))).heap q).idx := by
      intro q hq
      unfold setHeap
      dsimp only
      rcases hq with rfl | rfl
      · split
        · exact hother q ha
        · rw [if_pos rfl]
          exact hother b hb
      · rw [if_pos rfl]
        exact hother a ha
    dsimp only
    rw [setHeapIdx_heapIdx, setHeapIdx_heap, if_neg (hpos b (.inr rfl)), setHeapIdx_heapIdx,
      if_neg (hpos a (.inl rfl))]
    rfl

theorem heapifyUpLoop_quiet (n : Nat) {m : Tomgr δ} {idx : Nat} (h : idx < m.size) :
    Quiet m (heapifyUpLoop n m idx) := by
  induction n generalizing m idx with
  | zero => exact Quiet.refl m
  | succ n ih =>
    rw [heapifyUpLoop]
    split
    · next hc =>
      have hp : parent idx < m.size := Nat.lt_trans (parent_lt hc.1) h
      exact (swap_quiet h hp).trans (swap_reordered h hp).live (ih hp)
    · exact Quiet.refl m

theorem heapifyDownLoop_quiet (n : Nat) {m : Tomgr δ} {idx : Nat} (h : idx < m.size) :
    Quiet m (heapifyDownLoop n m idx) := by
  induction n generalizing m idx with
  | zero => exact Quiet.refl m
  | succ n ih =>
    rw [heapifyDownLoop]
    split
    · next hc =>
      have hp := smallest_lt hc
      exact (swap_quiet h hp).trans (swap_reordered h hp).live (ih hp)
    · exact Quiet.refl m

theorem heapifyDown_quiet {m : Tomgr δ} {idx : Nat} (h : idx < m.size ∨ m.size = 0) :
    Quiet m (m.heapifyDown idx) := by
  unfold heapifyDown
  rcases h with h | h
  · exact heapifyDownLoop_quiet m.size h
  · rw [h]
    exact Quiet.refl m

/-! ## The operations -/

theorem findFreeFrom_none {m : Tomgr δ} {n i : Nat} (h : findFreeFrom m n i = none) {e : Nat}
    (hlo : i ≤ e) (hhi : e < i + n) : (m.entries e).heapIdx ≠ toInvalid := by
  induction n generalizing i with
  | zero => omega
  | succ n ih =>
    rw [findFreeFrom] at h
    split at h
    · cases h
    · next hne =>
      by_cases he : e = i
      · rw [he]
        exact hne
      · exact ih h (by omega) (by omega)

/-- **An insert fails** exactly when the heap is full or no slot is free. -/
theorem tomgrInsert_none_iff (m : Tomgr δ) (type : ToType) (timeout : UInt64) (data : δ) :
    (m.tomgrInsert type timeout data).2 = none ↔
      tomgrSize ≤ m.size ∨ ∀ e, e < tomgrSize → (m.entries e).heapIdx ≠ toInvalid := by
  unfold tomgrInsert
  by_cases hfull : tomgrSize ≤ m.size
  · rw [if_pos hfull]
    exact ⟨fun _ => .inl hfull, fun _ => rfl⟩
  · rw [if_neg hfull]
    cases hfree : m.findFreeEntry with
    | none =>
      refine ⟨fun _ => .inr fun e he => ?_, fun _ => rfl⟩
      exact findFreeFrom_none hfree (Nat.zero_le e) (by omega)
    | some idx =>
      obtain ⟨hidx, hinv⟩ := findFreeFrom_some hfree
      constructor
      · intro h
        cases h
      · rintro (h | h)
        · exact absurd h hfull
        · exact absurd hinv (h idx (by omega))

/-- What a successful insert writes besides the set of live entries. -/
structure InsertedAs (m m' : Tomgr δ) (e : Nat) (type : ToType) (timeout : UInt64) (data : δ) :
    Prop where
  ordered : m'.Ordered
  lt : e < tomgrSize
  type : (m'.entries e).type = type
  timeout : (m'.entries e).timeout = timeout
  data : (m'.entries e).data = data
  others : ∀ x, x ≠ e → (m'.entries x).type = (m.entries x).type ∧
    (m'.entries x).timeout = (m.entries x).timeout ∧ (m'.entries x).data = (m.entries x).data
  free : (m.entries e).heapIdx = toInvalid
  slot : ∀ x, x ≠ e → ¬ m.Live x → (m'.entries x).heapIdx = (m.entries x).heapIdx

/-- The new entry goes behind the ordered heap and is moved up. -/
theorem append_upOrder {m : Tomgr δ} (h : m.Ordered) (idx : Nat) (type : ToType) (timeout : UInt64)
    (data : δ) : (m.append idx type timeout data).UpOrder m.size := by
  have hkey : ∀ p, p ≠ m.size → (m.append idx type timeout data).key p = m.key p := by
    intro p hp
    unfold key append setHeap
    dsimp only
    rw [if_neg hp]
    rfl
  refine ⟨fun p hp hps hpn => ?_, fun p hp hps _ hpp => ?_⟩
  · change p < m.size + 1 at hps
    have := parent_lt hp
    rw [hkey p hpn, hkey (parent p) (by omega)]
    exact h p hp (by omega)
  · change p < m.size + 1 at hps
    have := parent_lt hp
    omega

theorem tomgrInsert_as {m m' : Tomgr δ} (hord : m.Ordered) {type : ToType} {timeout : UInt64}
    {data : δ} {e : Nat} (hins : m.tomgrInsert type timeout data = (m', some e)) :
    InsertedAs m m' e type timeout data := by
  unfold tomgrInsert at hins
  split at hins
  · cases hins
  next hfull =>
  split at hins
  · cases hins
  next idx hfree =>
  obtain ⟨rfl, rfl⟩ := Prod.mk.inj hins |>.imp id Option.some.inj
  obtain ⟨hidx, hinv⟩ := findFreeFrom_some hfree
  have hlt : m.size < (m.append idx type timeout data).size := Nat.lt_succ_self m.size
  have hquiet := heapifyUpLoop_quiet m.size hlt
  have hent : ∀ x, (m.append idx type timeout data).entries x =
      if x = idx then ⟨type, timeout, data, m.size⟩ else m.entries x := fun _ => rfl
  refine ⟨heapifyUp_ordered hlt (append_upOrder hord idx type timeout data), by omega, ?_, ?_, ?_,
    fun x hx => ⟨?_, ?_, ?_⟩, hinv, fun x hx hlive => ?_⟩
  · exact (hquiet.type idx).trans (by rw [hent, if_pos rfl])
  · exact (hquiet.timeout idx).trans (by rw [hent, if_pos rfl])
  · exact (hquiet.data idx).trans (by rw [hent, if_pos rfl])
  · exact (hquiet.type x).trans (by rw [hent, if_neg hx])
  · exact (hquiet.timeout x).trans (by rw [hent, if_neg hx])
  · exact (hquiet.data x).trans (by rw [hent, if_neg hx])
  · refine (hquiet.slot x ?_).trans (by rw [hent, if_neg hx])
    rintro ⟨p, hp, hpx⟩
    change p < m.size + 1 at hp
    change (if p = m.size then (⟨idx, timeout⟩ : ToHeapEntry) else m.heap p).idx = x at hpx
    split at hpx
    · exact hx hpx.symm
    · exact hlive ⟨p, by omega, hpx⟩

/-! ## Taking an entry out -/

/-- The heap with its last entry moved to position `p`, and one shorter. -/
def filled (m : Tomgr δ) (p : Nat) (ents : Nat → ToEntry δ) : Tomgr δ :=
  { heap := fun q => if q = p then m.heap (m.size - 1) else m.heap q
    entries := ents
    size := m.size - 1 }

theorem filled_key (m : Tomgr δ) (p : Nat) (ents : Nat → ToEntry δ) (q : Nat) :
    (m.filled p ents).key q = if q = p then m.key (m.size - 1) else m.key q := by
  unfold key filled
  dsimp only
  split <;> rfl

theorem filled_key_other (m : Tomgr δ) {p q : Nat} (ents : Nat → ToEntry δ) (h : q ≠ p) :
    (m.filled p ents).key q = m.key q := by
  rw [filled_key, if_neg h]

theorem filled_key_same (m : Tomgr δ) (p : Nat) (ents : Nat → ToEntry δ) :
    (m.filled p ents).key p = m.key (m.size - 1) := by
  rw [filled_key, if_pos rfl]

/-- The moved entry is earlier than the parent: everything below is in order. -/
theorem filled_upOrder {m : Tomgr δ} (h : m.Ordered) {p : Nat} (hp : p < m.size)
    (ents : Nat → ToEntry δ) (hpos : 0 < p) (hless : m.key (m.size - 1) < m.key (parent p)) :
    (m.filled p ents).UpOrder p := by
  have hpar := h p hpos hp
  refine ⟨fun q hq hqs hqp => ?_, fun q hq hqs _ hqq => ?_⟩
  · change q < m.size - 1 at hqs
    have hle := h q hq (by omega)
    rw [filled_key_other m ents hqp]
    by_cases hc : parent q = p
    · rw [hc] at hle
      rw [hc, filled_key_same]
      omega
    · rw [filled_key_other m ents hc]
      exact hle
  · change q < m.size - 1 at hqs
    have hle := h q hq (by omega)
    have h₁ := parent_lt hpos
    have h₂ := parent_lt hq
    rw [hqq] at hle
    rw [filled_key_other m ents (by omega), filled_key_other m ents (by omega)]
    omega

/-- It is not: everything above is in order. -/
theorem filled_downOrder {m : Tomgr δ} (h : m.Ordered) {p : Nat} (hp : p < m.size)
    (ents : Nat → ToEntry δ)
    (hle : 0 < p → p < m.size - 1 → m.key (parent p) ≤ m.key (m.size - 1)) :
    (m.filled p ents).DownOrder p := by
  refine ⟨fun q hq hqs hqp => ?_, fun q hq hqs hpos hqq => ?_⟩
  · change q < m.size - 1 at hqs
    rw [filled_key_other m ents hqp]
    by_cases hc : q = p
    · rw [hc, filled_key_same]
      exact hle (hc ▸ hq) (hc ▸ hqs)
    · rw [filled_key_other m ents hc]
      exact h q hq (by omega)
  · change q < m.size - 1 at hqs
    have hpar := h p hpos hp
    have hqle := h q hq (by omega)
    have h₁ := parent_lt hpos
    have h₂ := parent_lt hq
    rw [hqq] at hqle
    rw [filled_key_other m ents (by omega), filled_key_other m ents (by omega)]
    omega

/-- The last entry taken out leaves the rest in order. -/
theorem filled_last_ordered {m : Tomgr δ} (h : m.Ordered) (ents : Nat → ToEntry δ) :
    (m.filled (m.size - 1) ents).Ordered := by
  intro q hq hqs
  change q < m.size - 1 at hqs
  have := parent_lt hq
  rw [filled_key_other m ents (by omega), filled_key_other m ents (by omega)]
  exact h q hq (by omega)

/-- What taking entry `e` out writes besides the set of live entries. -/
structure RemovedAs (m m' : Tomgr δ) (e : Nat) : Prop where
  removed : Removed m m' e
  ordered : m'.Ordered
  quiet : Quiet m m'

theorem Removed.quiet {m m₁ m₂ : Tomgr δ} {e : Nat} (h : Removed m m₁ e) (h₁ : Quiet m m₁)
    (h₂ : Quiet m₁ m₂) : Quiet m m₂ :=
  ⟨fun x => (h₂.type x).trans (h₁.type x), fun x => (h₂.timeout x).trans (h₁.timeout x),
    fun x => (h₂.data x).trans (h₁.data x), fun x hx =>
      (h₂.slot x fun hl => hx ((h.live x).mp hl).1).trans (h₁.slot x hx)⟩

/-- **`tomgr_pop`** keeps the heap in order and frees the slot of the root. -/
theorem tomgrPop_as {m : Tomgr δ} (hwf : m.Wf) (hord : m.Ordered) (hpos : 0 < m.size) :
    RemovedAs m (m.tomgrPop).1 (m.heap 0).idx ∧
      ((m.tomgrPop).1.entries (m.heap 0).idx).heapIdx = toInvalid := by
  obtain ⟨-, hrem⟩ := tomgrPop_removed hwf hpos
  have hpop : (m.tomgrPop).1 =
      (m.filled 0 (m.setHeapIdx (m.heap 0).idx toInvalid).entries).heapifyDown 0 := by
    unfold tomgrPop
    rw [if_neg (by omega)]
    rfl
  have hmid : Removed m (m.filled 0 (m.setHeapIdx (m.heap 0).idx toInvalid).entries)
      (m.heap 0).idx := by
    refine fill_removed hwf hpos (fun x => setHeapIdx_data m _ _ x)
      (fun x => setHeapIdx_to m _ _ x) fun q hq hq0 => ?_
    have hne : (m.heap q).idx ≠ (m.heap 0).idx := fun he => hq0 (hwf.inj q 0 hq hpos he)
    rw [setHeapIdx_heapIdx, if_neg hne]
    exact hwf.valid q hq
  have hq₁ : Quiet m (m.filled 0 (m.setHeapIdx (m.heap 0).idx toInvalid).entries) := by
    refine ⟨setHeapIdx_type m _ _, setHeapIdx_to m _ _, setHeapIdx_data m _ _, fun x hx => ?_⟩
    refine (setHeapIdx_heapIdx m _ _ x).trans (if_neg ?_)
    rintro rfl
    exact hx ⟨0, hpos, rfl⟩
  have hq₂ := @heapifyDown_quiet _ (m.filled 0 (m.setHeapIdx (m.heap 0).idx toInvalid).entries) 0
    (by show 0 < m.size - 1 ∨ m.size - 1 = 0; omega)
  rw [hpop] at hrem ⊢
  refine ⟨⟨hrem, heapifyDown_ordered (filled_downOrder hord hpos _ (by omega)),
    hmid.quiet hq₁ hq₂⟩, ?_⟩
  rw [hq₂.slot _ fun hl => ((hmid.live _).mp hl).2 rfl]
  exact (setHeapIdx_heapIdx m _ _ _).trans (if_pos rfl)

/-- The cancelled entry is the last of a heap that holds others: it replaces
itself, and its `heap_idx` is written a second time. -/
def LosesSlot (m : Tomgr δ) (e : Nat) : Prop :=
  m.size ≠ 1 ∧ (m.entries e).heapIdx = m.size - 1

instance (m : Tomgr δ) (e : Nat) : Decidable (m.LosesSlot e) :=
  inferInstanceAs (Decidable (m.size ≠ 1 ∧ (m.entries e).heapIdx = m.size - 1))

/-- The entries while `tomgr_cancel` puts the heap in order. -/
def cancelEntries (m : Tomgr δ) (e : Nat) : Nat → ToEntry δ :=
  ((m.setHeapIdx e toInvalid).setHeapIdx (m.heap (m.size - 1)).idx (m.entries e).heapIdx).entries

/-- What `tomgr_cancel` does to an entry it accepts, in a heap that holds
others. -/
theorem tomgrCancel_accepted {m : Tomgr δ} {e : Nat} (hlt : (m.entries e).heapIdx < m.size)
    (hidx : (m.heap (m.entries e).heapIdx).idx = e) (hone : m.size ≠ 1) :
    (m.tomgrCancel e).1 =
      let p := (m.entries e).heapIdx
      let mid := m.filled p (m.cancelEntries e)
      if p < m.size - 1 then
        if 0 < p ∧ (mid.heap p).timeout < (mid.heap (parent p)).timeout then mid.heapifyUp p
        else mid.heapifyDown p
      else mid := by
  have hmid : ({ ((m.setHeapIdx e toInvalid).setHeap (m.entries e).heapIdx
        (m.heap (m.size - 1))).setHeapIdx
          (((m.setHeapIdx e toInvalid).setHeap (m.entries e).heapIdx
            (m.heap (m.size - 1))).heap (m.entries e).heapIdx).idx (m.entries e).heapIdx with
      size := m.size - 1 } : Tomgr δ) = m.filled (m.entries e).heapIdx (m.cancelEntries e) := by
    have hmoved : (((m.setHeapIdx e toInvalid).setHeap (m.entries e).heapIdx
        (m.heap (m.size - 1))).heap (m.entries e).heapIdx).idx = (m.heap (m.size - 1)).idx := by
      unfold setHeap
      dsimp only
      rw [if_pos rfl]
    rw [hmoved]
    rfl
  unfold tomgrCancel
  dsimp only
  rw [if_neg (by rw [not_or, Decidable.not_not]; exact ⟨by omega, hidx⟩),
    if_neg (show ¬ (m.setHeapIdx e toInvalid).size = 1 from hone), ← hmid, apply_ite Prod.fst,
    apply_ite Prod.fst]
  rfl

theorem tomgrCancel_one {m : Tomgr δ} {e : Nat} (hlt : (m.entries e).heapIdx < m.size)
    (hidx : (m.heap (m.entries e).heapIdx).idx = e) (hone : m.size = 1) :
    (m.tomgrCancel e).1 = { m.setHeapIdx e toInvalid with size := 0 } := by
  unfold tomgrCancel
  dsimp only
  rw [if_neg (by rw [not_or, Decidable.not_not]; exact ⟨by omega, hidx⟩),
    if_pos (show (m.setHeapIdx e toInvalid).size = 1 from hone)]

/-- While the heap is put in order, only live entries and `e` itself have
been written. -/
theorem cancelEntries_heapIdx {m : Tomgr δ} (e x : Nat) :
    (m.cancelEntries e x).heapIdx =
      if x = (m.heap (m.size - 1)).idx then (m.entries e).heapIdx
      else if x = e then toInvalid else (m.entries x).heapIdx := by
  unfold cancelEntries
  rw [setHeapIdx_heapIdx, setHeapIdx_heapIdx]

/-- What a reordering after the removal leaves in the slot of `e`. -/
theorem RemovedAs.of_moved {m mid m' : Tomgr δ} {e : Nat} (h₁ : Removed m mid e)
    (hq₁ : Quiet m mid) (hr : Reordered mid m') (hq₂ : Quiet mid m') (hord : m'.Ordered) :
    RemovedAs m m' e ∧ (m'.entries e).heapIdx = (mid.entries e).heapIdx :=
  ⟨⟨h₁.reordered hr, hord, h₁.quiet hq₁ hq₂⟩, hq₂.slot e fun hl => ((h₁.live e).mp hl).2 rfl⟩

/-- **`tomgr_cancel`** of an entry it accepts keeps the heap in order. The
slot is free afterwards, unless the entry was the last of a larger heap. -/
theorem tomgrCancel_as {m : Tomgr δ} (hwf : m.Wf) (hord : m.Ordered) {e : Nat}
    (hok : (m.tomgrCancel e).2 = true) :
    RemovedAs m (m.tomgrCancel e).1 e ∧
      (((m.tomgrCancel e).1.entries e).heapIdx = toInvalid ↔ ¬ m.LosesSlot e) := by
  rcases tomgrCancel_cases hwf e with hrefused | ⟨-, -, hrem⟩
  · rw [hrefused] at hok
    cases hok
  have hacc : (m.entries e).heapIdx < m.size ∧ (m.heap (m.entries e).heapIdx).idx = e := by
    by_cases hc : m.size ≤ (m.entries e).heapIdx ∨ (m.heap (m.entries e).heapIdx).idx ≠ e
    · have hfail : m.tomgrCancel e = (m, false) := if_pos hc
      rw [hfail] at hok
      cases hok
    · rw [not_or, Nat.not_le, Decidable.not_not] at hc
      exact hc
  obtain ⟨hlt, hidx⟩ := hacc
  have hsize := hwf.sizeLe
  by_cases hone : m.size = 1
  · have heq := tomgrCancel_one hlt hidx hone
    rw [heq] at hrem ⊢
    refine ⟨⟨hrem, fun p _ hp => absurd hp (Nat.not_lt_zero p), setHeapIdx_type m _ _,
      setHeapIdx_to m _ _, setHeapIdx_data m _ _, fun x hx => ?_⟩, ?_⟩
    · refine (setHeapIdx_heapIdx m _ _ x).trans (if_neg ?_)
      rintro rfl
      exact hx ⟨_, hlt, hidx⟩
    · refine ⟨fun _ h => h.1 hone, fun _ => ?_⟩
      exact (setHeapIdx_heapIdx m _ _ e).trans (if_pos rfl)
  · have hmid : Removed m (m.filled (m.entries e).heapIdx (m.cancelEntries e)) e := by
      have hfill := @fill_removed _ m hwf _ hlt (m.cancelEntries e)
        (fun x => (setHeapIdx_data _ _ _ x).trans (setHeapIdx_data m e _ x))
        (fun x => (setHeapIdx_to _ _ _ x).trans (setHeapIdx_to m e _ x)) ?_
      · rw [hidx] at hfill
        exact hfill
      · intro q hq hqp
        refine setHeapIdx_valid (by unfold toInvalid; omega) ?_
        have hne : (m.heap q).idx ≠ e := fun he => hqp (hwf.inj q _ hq hlt (he.trans hidx.symm))
        rw [setHeapIdx_heapIdx, if_neg hne]
        exact hwf.valid q hq
    have hq₁ : Quiet m (m.filled (m.entries e).heapIdx (m.cancelEntries e)) := by
      refine ⟨fun x => (setHeapIdx_type _ _ _ x).trans (setHeapIdx_type m e _ x),
        fun x => (setHeapIdx_to _ _ _ x).trans (setHeapIdx_to m e _ x),
        fun x => (setHeapIdx_data _ _ _ x).trans (setHeapIdx_data m e _ x), fun x hx => ?_⟩
      refine (cancelEntries_heapIdx e x).trans ?_
      rw [if_neg, if_neg]
      · rintro rfl
        exact hx ⟨_, hlt, hidx⟩
      · rintro rfl
        exact hx ⟨m.size - 1, by omega, rfl⟩
    -- the moved entry is `e` itself exactly when `e` is the last one
    have hslot : ((m.filled (m.entries e).heapIdx (m.cancelEntries e)).entries e).heapIdx =
        toInvalid ↔ ¬ m.LosesSlot e := by
      rw [show ((m.filled (m.entries e).heapIdx (m.cancelEntries e)).entries e).heapIdx = _ from
        cancelEntries_heapIdx e e]
      unfold LosesSlot
      rw [if_pos rfl]
      by_cases hlast : (m.entries e).heapIdx = m.size - 1
      · rw [if_pos (by rw [← hlast, hidx])]
        refine ⟨fun h => ?_, fun h => absurd ⟨hone, hlast⟩ h⟩
        unfold toInvalid at h
        omega
      · rw [if_neg]
        · exact ⟨fun _ h => hlast h.2, fun _ => rfl⟩
        · intro he
          exact hlast (hwf.inj _ _ hlt (by omega) (hidx.trans he))
    have hmove : ∀ m' : Tomgr δ,
        Reordered (m.filled (m.entries e).heapIdx (m.cancelEntries e)) m' →
        Quiet (m.filled (m.entries e).heapIdx (m.cancelEntries e)) m' → m'.Ordered →
        RemovedAs m m' e ∧ ((m'.entries e).heapIdx = toInvalid ↔ ¬ m.LosesSlot e) := by
      intro m' hr hq ho
      obtain ⟨has, hsame⟩ := RemovedAs.of_moved hmid hq₁ hr hq ho
      rw [hsame]
      exact ⟨has, hslot⟩
    rw [tomgrCancel_accepted hlt hidx hone]
    dsimp only
    split
    · next hin =>
      have hin' : (m.entries e).heapIdx <
          (m.filled (m.entries e).heapIdx (m.cancelEntries e)).size := hin
      split
      · next hup =>
        rw [timeout_lt_iff, filled_key_same] at hup
        have hpar := parent_lt hup.1
        rw [filled_key_other m _ (by omega)] at hup
        exact hmove _ (heapifyUp_reordered hin') (heapifyUpLoop_quiet _ hin')
          (heapifyUp_ordered hin' (filled_upOrder hord hlt _ hup.1 hup.2))
      · next hdown =>
        rw [timeout_lt_iff, filled_key_same] at hdown
        refine hmove _ (heapifyDown_reordered _ _) (heapifyDown_quiet (.inl hin'))
          (heapifyDown_ordered (filled_downOrder hord hlt _ fun hpos _ => ?_))
        have hpar := parent_lt hpos
        rw [filled_key_other m _ (by omega)] at hdown
        omega
    · next hin =>
      have hlast : (m.entries e).heapIdx = m.size - 1 := by omega
      refine hmove _ (Reordered.refl _) (Quiet.refl _) ?_
      rw [hlast]
      exact filled_last_ordered hord _

end Tomgr

end Chamelio.Util
