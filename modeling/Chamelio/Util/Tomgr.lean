/-!
# The timeout manager (`lib/utils/tomgr/tomgr.c`)

A table of `TOMGR_SIZE` entries, handed out to callers by pointer, and a
min-heap of indices into it. An entry is live while the heap names it; its
slot is free while its `heap_idx` is `TO_INVALID`.

The results say what each operation does to the set of live entries and to
what they carry: `tomgr_insert` adds one entry that was not live,
`tomgr_pop` removes the one at the root, `tomgr_cancel` removes the entry it
is given or nothing.

Mirroring notes: a `struct to_entry *` is the index of the entry, `void *data`
is a value of an arbitrary type. `heap_idx` is a natural number, since
`TO_INVALID` is positive too. The loops of `heapify_up`, `heapify_down` and
`find_free_entry` run on a counter that the position bounds.
-/

namespace Chamelio.Util

/-- `TOMGR_SIZE`. -/
def tomgrSize : Nat := 1024
/-- `TO_INVALID`. -/
def toInvalid : Nat := tomgrSize

/-- The `type` of an entry, a `__u8` that the manager only stores. -/
abbrev ToType := UInt8

/-- `TO_ARP` of `enum to_type`. -/
def ToType.arp : ToType := 0

/-- `struct to_heap_entry`. -/
structure ToHeapEntry where
  idx : Nat
  timeout : UInt64
  deriving DecidableEq, Repr

/-- `struct to_entry`. -/
structure ToEntry (δ : Type) where
  type : ToType
  timeout : UInt64
  data : δ
  heapIdx : Nat

/-- `struct tomgr`. -/
structure Tomgr (δ : Type) where
  heap : Nat → ToHeapEntry
  entries : Nat → ToEntry δ
  size : Nat

namespace Tomgr

variable {δ : Type}

/-- `PARENT`. -/
def parent (i : Nat) : Nat := (i - 1) / 2
/-- `LEFT`. -/
def left (i : Nat) : Nat := 2 * i + 1
/-- `RIGHT`. -/
def right (i : Nat) : Nat := 2 * i + 2

def setHeap (m : Tomgr δ) (p : Nat) (h : ToHeapEntry) : Tomgr δ :=
  { m with heap := fun q => if q = p then h else m.heap q }

def setEntry (m : Tomgr δ) (i : Nat) (e : ToEntry δ) : Tomgr δ :=
  { m with entries := fun j => if j = i then e else m.entries j }

/-- `mgr->entries[i].heap_idx = p`. -/
def setHeapIdx (m : Tomgr δ) (i p : Nat) : Tomgr δ :=
  m.setEntry i { m.entries i with heapIdx := p }

/-- `tomgr_init`: everything but `heap_idx` and `size` is what `malloc` left. -/
def tomgrInit (mem : Tomgr δ) : Tomgr δ :=
  { mem with
    size := 0
    entries := fun i => { mem.entries i with heapIdx := toInvalid } }

/-- `swap`. -/
def swap (m : Tomgr δ) (a b : Nat) : Tomgr δ :=
  let m := (m.setHeap a (m.heap b)).setHeap b (m.heap a)
  let m := m.setHeapIdx (m.heap a).idx a
  m.setHeapIdx (m.heap b).idx b

/-- The loop of `heapify_up`. -/
def heapifyUpLoop : Nat → Tomgr δ → Nat → Tomgr δ
  | 0, m, _ => m
  | n + 1, m, idx =>
    if 0 < idx ∧ (m.heap idx).timeout < (m.heap (parent idx)).timeout then
      heapifyUpLoop n (m.swap idx (parent idx)) (parent idx)
    else m

/-- `heapify_up`. -/
def heapifyUp (m : Tomgr δ) (idx : Nat) : Tomgr δ := heapifyUpLoop idx m idx

/-- The position `heapify_down` goes to: the least of `idx` and its children. -/
def smallest (m : Tomgr δ) (idx : Nat) : Nat :=
  let s :=
    if left idx < m.size ∧ (m.heap (left idx)).timeout < (m.heap idx).timeout then left idx
    else idx
  if right idx < m.size ∧ (m.heap (right idx)).timeout < (m.heap s).timeout then right idx else s

/-- The recursion of `heapify_down`. -/
def heapifyDownLoop : Nat → Tomgr δ → Nat → Tomgr δ
  | 0, m, _ => m
  | n + 1, m, idx =>
    if m.smallest idx ≠ idx then
      heapifyDownLoop n (m.swap idx (m.smallest idx)) (m.smallest idx)
    else m

/-- `heapify_down`. -/
def heapifyDown (m : Tomgr δ) (idx : Nat) : Tomgr δ := heapifyDownLoop m.size m idx

/-- The loop of `find_free_entry`. -/
def findFreeFrom (m : Tomgr δ) : Nat → Nat → Option Nat
  | 0, _ => none
  | n + 1, i => if (m.entries i).heapIdx = toInvalid then some i else findFreeFrom m n (i + 1)

/-- `find_free_entry`. -/
def findFreeEntry (m : Tomgr δ) : Option Nat := findFreeFrom m tomgrSize 0

/-- What `tomgr_insert` writes before the heap is put in order. -/
def append (m : Tomgr δ) (idx : Nat) (type : ToType) (timeout : UInt64) (data : δ) : Tomgr δ :=
  { (m.setEntry idx { type, timeout, data, heapIdx := m.size }).setHeap m.size { idx, timeout } with
    size := m.size + 1 }

/-- `tomgr_insert`; the entry it returns, `none` for `NULL`. -/
def tomgrInsert (m : Tomgr δ) (type : ToType) (timeout : UInt64) (data : δ) :
    Tomgr δ × Option Nat :=
  if tomgrSize ≤ m.size then (m, none)
  else
    match m.findFreeEntry with
    | none => (m, none)
    | some idx => ((m.append idx type timeout data).heapifyUp m.size, some idx)

/-- `tomgr_cancel`; `false` for `-1`. -/
def tomgrCancel (m : Tomgr δ) (e : Nat) : Tomgr δ × Bool :=
  let heapIdx := (m.entries e).heapIdx
  if m.size ≤ heapIdx ∨ (m.heap heapIdx).idx ≠ e then (m, false)
  else
    let m := m.setHeapIdx e toInvalid
    if m.size = 1 then ({ m with size := 0 }, true)
    else
      let m := m.setHeap heapIdx (m.heap (m.size - 1))
      let m := m.setHeapIdx (m.heap heapIdx).idx heapIdx
      let m := { m with size := m.size - 1 }
      if heapIdx < m.size then
        if 0 < heapIdx ∧ (m.heap heapIdx).timeout < (m.heap (parent heapIdx)).timeout then
          (m.heapifyUp heapIdx, true)
        else (m.heapifyDown heapIdx, true)
      else (m, true)

/-- `tomgr_peek`. -/
def tomgrPeek (m : Tomgr δ) : Option Nat :=
  if m.size = 0 then none else some (m.heap 0).idx

/-- `tomgr_pop`. -/
def tomgrPop (m : Tomgr δ) : Tomgr δ × Option Nat :=
  if m.size = 0 then (m, none)
  else
    let earliest := (m.heap 0).idx
    let m := m.setHeapIdx earliest toInvalid
    let m := m.setHeap 0 (m.heap (m.size - 1))
    let m := { m with size := m.size - 1 }
    (m.heapifyDown 0, some earliest)

/-! ## Live entries -/

/-- The heap names entry `e`. -/
def Live (m : Tomgr δ) (e : Nat) : Prop := ∃ p, p < m.size ∧ (m.heap p).idx = e

/-- The heap names each entry at most once, with its timeout, and no entry it
names is free. -/
structure Wf (m : Tomgr δ) : Prop where
  sizeLe : m.size ≤ tomgrSize
  inj : ∀ p q, p < m.size → q < m.size → (m.heap p).idx = (m.heap q).idx → p = q
  bound : ∀ p, p < m.size → (m.heap p).idx < tomgrSize
  valid : ∀ p, p < m.size → (m.entries (m.heap p).idx).heapIdx ≠ toInvalid
  stamp : ∀ p, p < m.size → (m.entries (m.heap p).idx).timeout = (m.heap p).timeout

/-- `m'` has the live entries of `m`, with the same contents, in another
heap order. -/
structure Reordered (m m' : Tomgr δ) : Prop where
  size : m'.size = m.size
  live : ∀ e, m'.Live e ↔ m.Live e
  data : ∀ e, (m'.entries e).data = (m.entries e).data
  timeout : ∀ e, (m'.entries e).timeout = (m.entries e).timeout
  wf : m.Wf → m'.Wf

theorem Reordered.refl (m : Tomgr δ) : Reordered m m :=
  ⟨rfl, fun _ => Iff.rfl, fun _ => rfl, fun _ => rfl, id⟩

theorem Reordered.trans {m₁ m₂ m₃ : Tomgr δ} (h₁ : Reordered m₁ m₂) (h₂ : Reordered m₂ m₃) :
    Reordered m₁ m₃ :=
  ⟨h₂.size.trans h₁.size, fun e => (h₂.live e).trans (h₁.live e),
    fun e => (h₂.data e).trans (h₁.data e), fun e => (h₂.timeout e).trans (h₁.timeout e),
    fun h => h₂.wf (h₁.wf h)⟩

@[simp] theorem setHeapIdx_heap (m : Tomgr δ) (i p : Nat) : (m.setHeapIdx i p).heap = m.heap := rfl

@[simp] theorem setHeapIdx_size (m : Tomgr δ) (i p : Nat) : (m.setHeapIdx i p).size = m.size := rfl

theorem setHeapIdx_data (m : Tomgr δ) (i p e : Nat) :
    ((m.setHeapIdx i p).entries e).data = (m.entries e).data := by
  unfold setHeapIdx setEntry
  dsimp only
  split
  · next h => rw [h]
  · rfl

theorem setHeapIdx_to (m : Tomgr δ) (i p e : Nat) :
    ((m.setHeapIdx i p).entries e).timeout = (m.entries e).timeout := by
  unfold setHeapIdx setEntry
  dsimp only
  split
  · next h => rw [h]
  · rfl

theorem setHeapIdx_heapIdx (m : Tomgr δ) (i p e : Nat) :
    ((m.setHeapIdx i p).entries e).heapIdx = if e = i then p else (m.entries e).heapIdx := by
  unfold setHeapIdx setEntry
  dsimp only
  split <;> rfl

/-- A position written with a valid number stays valid. -/
theorem setHeapIdx_valid {m : Tomgr δ} {i p e : Nat} (hp : p ≠ toInvalid)
    (h : (m.entries e).heapIdx ≠ toInvalid) :
    ((m.setHeapIdx i p).entries e).heapIdx ≠ toInvalid := by
  rw [setHeapIdx_heapIdx]
  split
  · exact hp
  · exact h

/-! ## Putting the heap in order -/

theorem swap_heap (m : Tomgr δ) (a b q : Nat) :
    (m.swap a b).heap q = m.heap (if q = b then a else if q = a then b else q) := by
  unfold swap setHeap
  dsimp only [setHeapIdx_heap]
  split
  · rfl
  · split <;> rfl

@[simp] theorem swap_size (m : Tomgr δ) (a b : Nat) : (m.swap a b).size = m.size := rfl

/-- A swap of two positions of the heap moves no entry in or out. -/
theorem swap_reordered {m : Tomgr δ} {a b : Nat} (ha : a < m.size) (hb : b < m.size) :
    Reordered m (m.swap a b) := by
  have hpos : ∀ q, q < m.size → (if q = b then a else if q = a then b else q) < m.size := by
    intro q hq
    split
    · exact ha
    · split
      · exact hb
      · exact hq
  have hto : ∀ e, ((m.swap a b).entries e).timeout = (m.entries e).timeout := by
    intro e
    unfold swap
    dsimp only
    rw [setHeapIdx_to, setHeapIdx_to]
    rfl
  refine ⟨rfl, fun e => ⟨?_, ?_⟩, fun e => ?_, hto, fun h => ⟨h.sizeLe, ?_, ?_, ?_, ?_⟩⟩
  · rintro ⟨q, hq, he⟩
    rw [swap_heap] at he
    exact ⟨_, hpos q hq, he⟩
  · rintro ⟨q, hq, he⟩
    refine ⟨if q = b then a else if q = a then b else q, hpos q hq, ?_⟩
    rw [swap_heap, ← he]
    congr 2
    split <;> split <;> (try split) <;> omega
  · unfold swap
    dsimp only
    rw [setHeapIdx_data, setHeapIdx_data]
    rfl
  · intro p q hp hq heq
    rw [swap_heap, swap_heap] at heq
    have := h.inj _ _ (hpos p hp) (hpos q hq) heq
    split at this <;> split at this <;> (try split at this) <;> (try split at this) <;> omega
  · intro p hp
    rw [swap_heap]
    exact h.bound _ (hpos p hp)
  · intro p hp
    rw [swap_heap]
    have hsize := h.sizeLe
    unfold swap
    dsimp only
    refine setHeapIdx_valid (by unfold toInvalid; omega)
      (setHeapIdx_valid (by unfold toInvalid; omega) ?_)
    exact h.valid _ (hpos p hp)
  · intro p hp
    rw [hto, swap_heap]
    exact h.stamp _ (hpos p hp)

theorem parent_lt {i : Nat} (h : 0 < i) : parent i < i := by
  unfold parent
  omega

theorem heapifyUpLoop_reordered (n : Nat) {m : Tomgr δ} {idx : Nat} (h : idx < m.size) :
    Reordered m (heapifyUpLoop n m idx) := by
  induction n generalizing m idx with
  | zero => exact Reordered.refl m
  | succ n ih =>
    rw [heapifyUpLoop]
    split
    · next hc =>
      have hp : parent idx < m.size := Nat.lt_trans (parent_lt hc.1) h
      exact (swap_reordered h hp).trans (ih hp)
    · exact Reordered.refl m

theorem heapifyUp_reordered {m : Tomgr δ} {idx : Nat} (h : idx < m.size) :
    Reordered m (m.heapifyUp idx) :=
  heapifyUpLoop_reordered idx h

theorem smallest_lt {m : Tomgr δ} {idx : Nat} (h : m.smallest idx ≠ idx) :
    m.smallest idx < m.size := by
  unfold smallest at h ⊢
  dsimp only at h ⊢
  by_cases hl : left idx < m.size ∧ (m.heap (left idx)).timeout < (m.heap idx).timeout
  · rw [if_pos hl]
    split
    · next hr => exact hr.1
    · exact hl.1
  · rw [if_neg hl] at h ⊢
    split at h
    · next hr => rw [if_pos hr]; exact hr.1
    · exact absurd rfl h

theorem heapifyDownLoop_reordered (n : Nat) {m : Tomgr δ} {idx : Nat} (h : idx < m.size) :
    Reordered m (heapifyDownLoop n m idx) := by
  induction n generalizing m idx with
  | zero => exact Reordered.refl m
  | succ n ih =>
    rw [heapifyDownLoop]
    split
    · next hc =>
      have hp := smallest_lt hc
      exact (swap_reordered h hp).trans (ih hp)
    · exact Reordered.refl m

/-- `heapify_down` at any position: at one outside the heap it does nothing. -/
theorem heapifyDown_reordered (m : Tomgr δ) (idx : Nat) : Reordered m (m.heapifyDown idx) := by
  by_cases h : idx < m.size
  · exact heapifyDownLoop_reordered m.size h
  · have hstay : m.smallest idx = idx := by
      unfold smallest left right
      rw [if_neg (by omega), if_neg (by omega)]
    unfold heapifyDown
    cases m.size with
    | zero => exact Reordered.refl m
    | succ n =>
      rw [heapifyDownLoop, if_neg (fun hne => hne hstay)]
      exact Reordered.refl m

/-- An entry that is not earlier than the root does not replace it. -/
theorem heapifyUpLoop_root (n : Nat) {m : Tomgr δ} {idx : Nat} (hpos : 0 < idx)
    (hto : (m.heap 0).timeout ≤ (m.heap idx).timeout) :
    (heapifyUpLoop n m idx).heap 0 = m.heap 0 := by
  induction n generalizing m idx with
  | zero => rfl
  | succ n ih =>
    rw [heapifyUpLoop]
    split
    · next hc =>
      have hpar : 0 < parent idx := by
        refine Nat.pos_of_ne_zero fun h0 => ?_
        rw [h0] at hc
        exact absurd hc.2 (UInt64.not_lt.mpr hto)
      have hroot : (m.swap idx (parent idx)).heap 0 = m.heap 0 := by
        rw [swap_heap, if_neg (by omega), if_neg (by omega)]
      have hmove : (m.swap idx (parent idx)).heap (parent idx) = m.heap idx := by
        rw [swap_heap, if_pos rfl]
      rw [ih hpar (by rw [hroot, hmove]; exact hto), hroot]
    · rfl

/-! ## What the operations do -/

theorem findFreeFrom_some {m : Tomgr δ} {n i idx : Nat} (h : findFreeFrom m n i = some idx) :
    idx < i + n ∧ (m.entries idx).heapIdx = toInvalid := by
  induction n generalizing i with
  | zero => cases h
  | succ n ih =>
    rw [findFreeFrom] at h
    split at h
    · next hfree =>
      cases h
      exact ⟨by omega, hfree⟩
    · obtain ⟨hlt, hfree⟩ := ih h
      exact ⟨by omega, hfree⟩

/-- `tomgr_insert` finds no room: nothing changes. -/
theorem tomgrInsert_none {m m' : Tomgr δ} {type : ToType} {timeout : UInt64} {data : δ}
    (h : m.tomgrInsert type timeout data = (m', none)) : m' = m := by
  unfold tomgrInsert at h
  split at h
  · exact (congrArg Prod.fst h).symm
  · split at h
    · exact (congrArg Prod.fst h).symm
    · cases h

/-- What a successful `tomgr_insert` leaves. -/
structure Inserted (m m' : Tomgr δ) (e : Nat) (timeout : UInt64) (data : δ) : Prop where
  fresh : ¬ m.Live e
  live : ∀ x, m'.Live x ↔ m.Live x ∨ x = e
  data : (m'.entries e).data = data
  others : ∀ x, x ≠ e → (m'.entries x).data = (m.entries x).data
  wf : m'.Wf
  root : 0 < m.size → (m.heap 0).timeout ≤ timeout → m'.heap 0 = m.heap 0
  size : m'.size = m.size + 1

theorem append_wf {m : Tomgr δ} (h : m.Wf) {idx : Nat} (type : ToType) (timeout : UInt64) (data : δ)
    (hsize : m.size < tomgrSize) (hidx : idx < tomgrSize) (hfresh : ¬ m.Live idx) :
    (m.append idx type timeout data).Wf := by
  have hheap : ∀ p, (m.append idx type timeout data).heap p =
      if p = m.size then ⟨idx, timeout⟩ else m.heap p := fun _ => rfl
  have hent : ∀ x, (m.append idx type timeout data).entries x =
      if x = idx then ⟨type, timeout, data, m.size⟩ else m.entries x := fun _ => rfl
  have hlive : ∀ p, p < m.size → (m.heap p).idx ≠ idx := fun p hp he => hfresh ⟨p, hp, he⟩
  refine ⟨hsize, ?_, ?_, ?_, ?_⟩
  · intro p q hp hq heq
    change p < m.size + 1 at hp
    change q < m.size + 1 at hq
    rw [hheap, hheap] at heq
    split at heq
    · split at heq
      · omega
      · exact absurd heq.symm (hlive q (by omega))
    · split at heq
      · exact absurd heq (hlive p (by omega))
      · exact h.inj p q (by omega) (by omega) heq
  · intro p hp
    change p < m.size + 1 at hp
    rw [hheap]
    split
    · exact hidx
    · exact h.bound p (by omega)
  · intro p hp
    change p < m.size + 1 at hp
    rw [hheap, hent]
    split
    · rw [if_pos rfl]
      show m.size ≠ toInvalid
      unfold toInvalid
      omega
    · rw [if_neg (hlive p (by omega))]
      exact h.valid p (by omega)
  · intro p hp
    change p < m.size + 1 at hp
    rw [hheap, hent]
    split
    · rw [if_pos rfl]
    · rw [if_neg (hlive p (by omega))]
      exact h.stamp p (by omega)

theorem tomgrInsert_some {m m' : Tomgr δ} (h : m.Wf) {type : ToType} {timeout : UInt64} {data : δ}
    {e : Nat} (hins : m.tomgrInsert type timeout data = (m', some e)) :
    Inserted m m' e timeout data := by
  unfold tomgrInsert at hins
  split at hins
  · cases hins
  next hfull =>
  split at hins
  · cases hins
  next idx hfree =>
  obtain ⟨rfl, rfl⟩ := Prod.mk.inj hins |>.imp id Option.some.inj
  obtain ⟨hidx, hinv⟩ := findFreeFrom_some hfree
  have hfresh : ¬ m.Live idx := by
    rintro ⟨p, hp, rfl⟩
    exact h.valid p hp hinv
  have happ := append_wf h type timeout data (by omega) (show idx < tomgrSize by omega) hfresh
  have hmove := heapifyUp_reordered (show m.size < (m.append idx type timeout data).size from
    Nat.lt_succ_self m.size)
  refine ⟨hfresh, fun x => (hmove.live x).trans ?_, ?_, ?_, hmove.wf happ, ?_, hmove.size⟩
  · constructor
    · rintro ⟨p, hp, hx⟩
      change p < m.size + 1 at hp
      change (if p = m.size then (⟨idx, timeout⟩ : ToHeapEntry) else m.heap p).idx = x at hx
      split at hx
      · exact .inr hx.symm
      · exact .inl ⟨p, by omega, hx⟩
    · rintro (⟨p, hp, hx⟩ | rfl)
      · refine ⟨p, Nat.lt_succ_of_lt hp, ?_⟩
        change (if p = m.size then (⟨idx, timeout⟩ : ToHeapEntry) else m.heap p).idx = x
        rw [if_neg (Nat.ne_of_lt hp)]
        exact hx
      · refine ⟨m.size, Nat.lt_succ_self m.size, ?_⟩
        change (if m.size = m.size then (⟨x, timeout⟩ : ToHeapEntry) else m.heap m.size).idx = x
        rw [if_pos rfl]
  · rw [hmove.data]
    change (if idx = idx then (⟨type, timeout, data, m.size⟩ : ToEntry δ)
      else m.entries idx).data = data
    rw [if_pos rfl]
  · intro x hx
    rw [hmove.data]
    change (if x = idx then (⟨type, timeout, data, m.size⟩ : ToEntry δ) else m.entries x).data = _
    rw [if_neg hx]
  · intro hpos hto
    have hroot : (m.append idx type timeout data).heap 0 = m.heap 0 := if_neg (by omega)
    have hlast : (m.append idx type timeout data).heap m.size = ⟨idx, timeout⟩ := if_pos rfl
    unfold heapifyUp
    rw [heapifyUpLoop_root m.size hpos (by rw [hroot, hlast]; exact hto), hroot]

/-- What removing entry `e` leaves. -/
structure Removed (m m' : Tomgr δ) (e : Nat) : Prop where
  live : ∀ x, m'.Live x ↔ m.Live x ∧ x ≠ e
  data : ∀ x, (m'.entries x).data = (m.entries x).data
  wf : m'.Wf

/-- The last heap entry moved to position `p`, and the heap shortened: the
entry that was at `p` is gone. `ents` may differ from the entries in `heap_idx`
only. -/
theorem fill_removed {m : Tomgr δ} (h : m.Wf) {p : Nat} (hp : p < m.size)
    {ents : Nat → ToEntry δ} (hdata : ∀ x, (ents x).data = (m.entries x).data)
    (hto : ∀ x, (ents x).timeout = (m.entries x).timeout)
    (hvalid : ∀ q, q < m.size → q ≠ p → (ents (m.heap q).idx).heapIdx ≠ toInvalid) :
    Removed m
      { heap := fun q => if q = p then m.heap (m.size - 1) else m.heap q
        entries := ents
        size := m.size - 1 } (m.heap p).idx := by
  -- every position of the shorter heap holds an old position other than `p`
  have hold : ∀ q, q < m.size - 1 → ∃ r, r < m.size ∧ r ≠ p ∧
      (if q = p then m.heap (m.size - 1) else m.heap q) = m.heap r ∧
      (r = q ∨ r = m.size - 1 ∧ q = p) := by
    intro q hq
    by_cases hqp : q = p
    · exact ⟨m.size - 1, by omega, by omega, by rw [if_pos hqp], .inr ⟨rfl, hqp⟩⟩
    · exact ⟨q, by omega, hqp, by rw [if_neg hqp], .inl rfl⟩
  refine ⟨fun x => ⟨?_, ?_⟩, hdata, ⟨?_, ?_, ?_, ?_, ?_⟩⟩
  · rintro ⟨q, hq, hx⟩
    obtain ⟨r, hr, hrp, heq, -⟩ := hold q hq
    dsimp only at hx
    rw [heq] at hx
    refine ⟨⟨r, hr, hx⟩, fun hxe => hrp (h.inj r p hr hp (hx.trans hxe))⟩
  · rintro ⟨⟨r, hr, hx⟩, hne⟩
    have hrp : r ≠ p := fun he => hne (he ▸ hx.symm)
    by_cases hlast : r = m.size - 1
    · refine ⟨p, show p < m.size - 1 by omega, ?_⟩
      dsimp only
      rw [if_pos rfl, ← hlast]
      exact hx
    · refine ⟨r, show r < m.size - 1 by omega, ?_⟩
      dsimp only
      rw [if_neg hrp]
      exact hx
  · have := h.sizeLe
    show m.size - 1 ≤ tomgrSize
    omega
  · intro q q' hq hq' heq
    obtain ⟨r, hr, hrp, he, hc⟩ := hold q hq
    obtain ⟨r', hr', hrp', he', hc'⟩ := hold q' hq'
    dsimp only at heq hq hq'
    rw [he, he'] at heq
    have := h.inj r r' hr hr' heq
    omega
  · intro q hq
    obtain ⟨r, hr, -, he, -⟩ := hold q hq
    dsimp only
    rw [he]
    exact h.bound r hr
  · intro q hq
    obtain ⟨r, hr, hrp, he, -⟩ := hold q hq
    dsimp only
    rw [he]
    exact hvalid r hr hrp
  · intro q hq
    obtain ⟨r, hr, -, he, -⟩ := hold q hq
    dsimp only
    rw [he, hto]
    exact h.stamp r hr

theorem Removed.reordered {m m₁ m₂ : Tomgr δ} {e : Nat} (h : Removed m m₁ e)
    (hr : Reordered m₁ m₂) : Removed m m₂ e :=
  ⟨fun x => (hr.live x).trans (h.live x), fun x => (hr.data x).trans (h.data x), hr.wf h.wf⟩

/-- What `tomgr_peek` shows is at the root. -/
theorem peek_root {m : Tomgr δ} {e : Nat} (h : m.tomgrPeek = some e) :
    0 < m.size ∧ (m.heap 0).idx = e := by
  unfold tomgrPeek at h
  split at h
  · cases h
  · next hne => exact ⟨Nat.pos_of_ne_zero hne, Option.some.inj h⟩

/-- **`tomgr_pop`** removes the entry `tomgr_peek` shows. -/
theorem tomgrPop_removed {m : Tomgr δ} (h : m.Wf) (hpos : 0 < m.size) :
    (m.tomgrPop).2 = some (m.heap 0).idx ∧ Removed m (m.tomgrPop).1 (m.heap 0).idx := by
  unfold tomgrPop
  rw [if_neg (by omega)]
  refine ⟨rfl, ?_⟩
  dsimp only
  refine Removed.reordered (fill_removed h hpos (fun x => setHeapIdx_data m _ _ x)
    (fun x => setHeapIdx_to m _ _ x) ?_) (heapifyDown_reordered _ 0)
  intro q hq hq0
  have hne : (m.heap q).idx ≠ (m.heap 0).idx := fun he => hq0 (h.inj q 0 hq hpos he)
  rw [setHeapIdx_heapIdx, if_neg hne]
  exact h.valid q hq

/-- **`tomgr_cancel`** removes the entry it is given, or changes nothing. -/
theorem tomgrCancel_cases {m : Tomgr δ} (h : m.Wf) (e : Nat) :
    m.tomgrCancel e = (m, false) ∨
      m.Live e ∧ (m.tomgrCancel e).2 = true ∧ Removed m (m.tomgrCancel e).1 e := by
  unfold tomgrCancel
  dsimp only
  split
  · exact .inl rfl
  next hc =>
  rw [not_or, Nat.not_le, Decidable.not_not] at hc
  obtain ⟨hlt, hidx⟩ := hc
  have hsize := h.sizeLe
  refine .inr ⟨⟨_, hlt, hidx⟩, ?_⟩
  split
  · next hone =>
    change m.size = 1 at hone
    refine ⟨rfl, ?_⟩
    have hp : (m.entries e).heapIdx = 0 := by omega
    refine ⟨fun x => ⟨?_, ?_⟩, fun x => setHeapIdx_data m e _ x, ⟨Nat.zero_le _, ?_, ?_, ?_, ?_⟩⟩
    · rintro ⟨q, hq, -⟩
      exact absurd hq (Nat.not_lt_zero q)
    · rintro ⟨⟨q, hq, hx⟩, hne⟩
      have : q = (m.entries e).heapIdx := by omega
      rw [this, hidx] at hx
      exact absurd hx.symm hne
    · intro q q' hq
      exact absurd hq (Nat.not_lt_zero q)
    · intro q hq
      exact absurd hq (Nat.not_lt_zero q)
    · intro q hq
      exact absurd hq (Nat.not_lt_zero q)
    · intro q hq
      exact absurd hq (Nat.not_lt_zero q)
  · have hfill : Removed m
        { ((m.setHeapIdx e toInvalid).setHeap (m.entries e).heapIdx
            (m.heap (m.size - 1))).setHeapIdx
              (((m.setHeapIdx e toInvalid).setHeap (m.entries e).heapIdx
                (m.heap (m.size - 1))).heap (m.entries e).heapIdx).idx (m.entries e).heapIdx with
          size := m.size - 1 } e := by
      have := @fill_removed _ m h _ hlt
        (((m.setHeapIdx e toInvalid).setHeap (m.entries e).heapIdx
            (m.heap (m.size - 1))).setHeapIdx
              (((m.setHeapIdx e toInvalid).setHeap (m.entries e).heapIdx
                (m.heap (m.size - 1))).heap (m.entries e).heapIdx).idx
              (m.entries e).heapIdx).entries ?_ ?_ ?_
      · rw [hidx] at this
        exact this
      · intro x
        rw [setHeapIdx_data]
        exact setHeapIdx_data m e _ x
      · intro x
        rw [setHeapIdx_to]
        exact setHeapIdx_to m e _ x
      · intro q hq hqp
        refine setHeapIdx_valid (by unfold toInvalid; omega) ?_
        have hne : (m.heap q).idx ≠ e := fun he => hqp (h.inj q _ hq hlt (he.trans hidx.symm))
        show ((m.setHeapIdx e toInvalid).entries (m.heap q).idx).heapIdx ≠ toInvalid
        rw [setHeapIdx_heapIdx, if_neg hne]
        exact h.valid q hq
    split
    · next hin =>
      split
      · exact ⟨rfl, hfill.reordered (heapifyUp_reordered hin)⟩
      · exact ⟨rfl, hfill.reordered (heapifyDown_reordered _ _)⟩
    · exact ⟨rfl, hfill⟩

/-- The heap starts empty. -/
theorem tomgrInit_wf (mem : Tomgr δ) : (tomgrInit mem).Wf :=
  ⟨Nat.zero_le _, fun p _ hp => absurd hp (Nat.not_lt_zero p),
    fun p hp => absurd hp (Nat.not_lt_zero p), fun p hp => absurd hp (Nat.not_lt_zero p),
    fun p hp => absurd hp (Nat.not_lt_zero p)⟩

end Tomgr

end Chamelio.Util
