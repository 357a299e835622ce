/-!
# The mbuf cache of a core (`fast/txcache.c`)

A core keeps up to 256 preallocated mbufs in a ring, and puts an mbuf it has
no more use for back in front of the ring. When the ring is full the mbuf
goes back to the pool it came from.

Mirroring notes: an mbuf is the number of its buffer. The ring carries the
bounds of its two counters; its mbufs in order are `TxCache.items`.
-/

namespace Chamelio.Fast

/-- `TX_CACHE_SIZE`. -/
def txCacheSize : Nat := 256

theorem txCacheSize_pos : 0 < txCacheSize := by decide

/-- `tx_cache_mbs`, `tx_cache_head` and `tx_cache_n`. -/
structure TxCache where
  mbs : Nat → Nat
  head : Nat
  n : Nat
  head_lt : head < txCacheSize
  n_le : n ≤ txCacheSize

/-- The mbufs in the cache, from the head on. -/
def TxCache.items (c : TxCache) : List Nat :=
  (List.range c.n).map fun i => c.mbs ((c.head + i) % txCacheSize)

/-- The mbufs a core owns and those it has given back. -/
structure Mbufs where
  cache : TxCache
  /-- `tx_mbs`, the first `tx_n` of them. -/
  txMbs : List Nat
  /-- mbufs given back to the pool. -/
  pool : List Nat

/-- The slot in front of the head. -/
def TxCache.prev (c : TxCache) : Nat := if c.head = 0 then txCacheSize - 1 else c.head - 1

theorem TxCache.prev_lt (c : TxCache) : c.prev < txCacheSize := by
  have h := c.head_lt
  unfold TxCache.prev
  split
  · decide
  · omega

/-- The branch of `txcache_free` that finds room. -/
def TxCache.push (c : TxCache) (mb : Nat) (h : c.n < txCacheSize) : TxCache where
  mbs := fun i => if i = c.prev then mb else c.mbs i
  head := c.prev
  n := c.n + 1
  head_lt := c.prev_lt
  n_le := h

/-- `txcache_free`. -/
def txcacheFree (m : Mbufs) (mb : Nat) : Mbufs :=
  if h : m.cache.n < txCacheSize then { m with cache := m.cache.push mb h }
  else { m with pool := mb :: m.pool }

theorem TxCache.push_items (c : TxCache) (mb : Nat) (h : c.n < txCacheSize) :
    (c.push mb h).items = mb :: c.items := by
  have hh := c.head_lt
  have hp : (c.prev + 1) % txCacheSize = c.head := by
    unfold TxCache.prev txCacheSize at *
    split <;> omega
  unfold TxCache.items
  show (List.range (c.n + 1)).map (fun i => if (c.prev + i) % txCacheSize = c.prev then mb
    else c.mbs ((c.prev + i) % txCacheSize)) = _
  rw [List.range_succ_eq_map, List.map_cons, List.map_map]
  congr 1
  · rw [Nat.add_zero, Nat.mod_eq_of_lt c.prev_lt, if_pos rfl]
  · apply List.map_congr_left
    intro i hi
    have hin : i < c.n := List.mem_range.mp hi
    have hpl := c.prev_lt
    -- the slots behind the new head are the old ones
    have hne : (c.prev + (i + 1)) % txCacheSize ≠ c.prev := by
      unfold txCacheSize at *
      omega
    have heq : (c.prev + (i + 1)) % txCacheSize = (c.head + i) % txCacheSize := by
      rw [← hp, Nat.mod_add_mod]
      congr 1
      omega
    show (if (c.prev + (i + 1)) % txCacheSize = c.prev then mb
      else c.mbs ((c.prev + (i + 1)) % txCacheSize)) = _
    rw [if_neg hne, heq]

/-! ## Taking mbufs out and putting them back -/

/-- Fill the slots from `slot` on. -/
def putMbs (mbs : Nat → Nat) (slot : Nat) (l : List Nat) : Nat → Nat :=
  fun i => if slot ≤ i ∧ i < slot + l.length then l.getD (i - slot) 0 else mbs i

/-- `rte_pktmbuf_alloc_bulk` into `n` slots: all of them or, when the pool
refuses or has not enough, none. -/
def allocBulk (mbs : Nat → Nat) (pool : List Nat) (grant : Bool) (slot n : Nat) :
    Option ((Nat → Nat) × List Nat) :=
  if grant = true ∧ n ≤ pool.length then some (putMbs mbs slot (pool.take n), pool.drop n)
  else none

/-- What `txcache_alloc` adds to the cache. -/
structure Grown where
  mbs : Nat → Nat
  pool : List Nat
  added : Nat

/-- The part of `txcache_alloc` that fills the cache up; what the pool says to
its one or two calls is `grants`. -/
def txcacheGrow (m : Mbufs) (grants : Bool × Bool) : Grown :=
  let grow := txCacheSize - m.cache.n
  let tail := (m.cache.head + m.cache.n) % txCacheSize
  if tail + grow ≤ txCacheSize then
    match allocBulk m.cache.mbs m.pool grants.1 tail grow with
    | some (mbs, pool) => { mbs, pool, added := grow }
    | none => { mbs := m.cache.mbs, pool := m.pool, added := 0 }
  else
    let g := txCacheSize - tail
    match allocBulk m.cache.mbs m.pool grants.1 tail g with
    | some (mbs, pool) =>
      match allocBulk mbs pool grants.2 0 (grow - g) with
      | some (mbs, pool) => { mbs, pool, added := g + (grow - g) }
      | none => { mbs, pool, added := g }
    | none => { mbs := m.cache.mbs, pool := m.pool, added := 0 }

theorem txcacheGrow_added (m : Mbufs) (grants : Bool × Bool) :
    m.cache.n + (txcacheGrow m grants).added ≤ txCacheSize := by
  have hn := m.cache.n_le
  have htail := Nat.mod_lt (m.cache.head + m.cache.n) (show 0 < txCacheSize by decide)
  unfold txcacheGrow
  dsimp only
  split
  · split
    · dsimp only
      omega
    · exact hn
  · next hwrap =>
    split
    · split
      · dsimp only
        omega
      · dsimp only
        omega
    · exact hn

/-- The cache after `txcache_alloc` asked the pool. -/
def txcacheRefill (m : Mbufs) (grants : Bool × Bool) (num : Nat) : Mbufs :=
  if m.cache.n < num then
    { m with
      cache :=
        { m.cache with
          mbs := (txcacheGrow m grants).mbs
          n := m.cache.n + (txcacheGrow m grants).added
          n_le := txcacheGrow_added m grants }
      pool := (txcacheGrow m grants).pool }
  else m

/-- The mbufs a cache has without going round its end. -/
def TxCache.straight (c : TxCache) : Nat :=
  if c.head + c.n ≤ txCacheSize then c.n else txCacheSize - c.head

/-- Take `num` mbufs off the front. -/
def TxCache.advance (c : TxCache) (num : Nat) : TxCache where
  mbs := c.mbs
  head := (c.head + num) % txCacheSize
  n := c.n - num
  head_lt := Nat.mod_lt _ (by decide)
  n_le := Nat.le_trans (Nat.sub_le _ _) c.n_le

/-- What `txcache_alloc` returns: the slot `mbs` points at, and the number. -/
structure TxWindow where
  base : Nat
  num : Nat

/-- `txcache_alloc`. -/
def txcacheAlloc (m : Mbufs) (grants : Bool × Bool) (num : Nat) : TxWindow × Mbufs :=
  if num = 0 then ({ base := m.cache.head, num := 0 }, m)
  else
    let m := txcacheRefill m grants num
    let num := min num m.cache.straight
    ({ base := m.cache.head, num }, { m with cache := m.cache.advance num })

/-- Put the last `num` mbufs that were taken back in front. -/
def TxCache.retreat (c : TxCache) (num : Nat) (h : c.n + num ≤ txCacheSize) : TxCache where
  mbs := c.mbs
  head := (c.head + txCacheSize - num) % txCacheSize
  n := c.n + num
  head_lt := Nat.mod_lt _ (by decide)
  n_le := h

/-- `txcache_unalloc`. A caller gives back at most what it took, so there is
room for it. -/
def txcacheUnalloc (m : Mbufs) (num : Nat) : Mbufs :=
  if h : m.cache.n + num ≤ txCacheSize then { m with cache := m.cache.retreat num h } else m

/-! ## What allocating does to the mbufs -/

/-- `k` slots of a ring from `slot` on. -/
def ringSlots (mbs : Nat → Nat) (slot k : Nat) : List Nat :=
  (List.range k).map fun i => mbs ((slot + i) % txCacheSize)

theorem ringSlots_add (mbs : Nat → Nat) (slot j k : Nat) :
    ringSlots mbs slot (j + k) = ringSlots mbs slot j ++ ringSlots mbs (slot + j) k := by
  unfold ringSlots
  rw [List.range_add, List.map_append, List.map_map]
  congr 1
  refine List.map_congr_left fun i _ => ?_
  show mbs ((slot + (j + i)) % txCacheSize) = _
  rw [Nat.add_assoc]

/-- Only the place on the ring matters. -/
theorem ringSlots_congr (mbs : Nat → Nat) {slot slot' : Nat} (k : Nat)
    (h : slot % txCacheSize = slot' % txCacheSize) :
    ringSlots mbs slot k = ringSlots mbs slot' k := by
  refine List.map_congr_left fun i _ => ?_
  rw [Nat.add_mod, h, ← Nat.add_mod]

/-- Slots that do not go round the end. -/
theorem ringSlots_straight (mbs : Nat → Nat) {slot k : Nat} (h : slot + k ≤ txCacheSize) :
    ringSlots mbs slot k = (List.range k).map fun i => mbs (slot + i) := by
  refine List.map_congr_left fun i hi => ?_
  have := List.mem_range.mp hi
  rw [Nat.mod_eq_of_lt (by omega)]

theorem ringSlots_putMbs (mbs : Nat → Nat) {slot : Nat} {l : List Nat}
    (h : slot + l.length ≤ txCacheSize) : ringSlots (putMbs mbs slot l) slot l.length = l := by
  rw [ringSlots_straight _ h]
  refine List.ext_getElem (by simp) fun i _ hi => ?_
  rw [List.getElem_map, List.getElem_range]
  unfold putMbs
  rw [if_pos ⟨Nat.le_add_right slot i, by omega⟩, Nat.add_sub_cancel_left,
    List.getD_eq_getElem?_getD, List.getElem?_eq_getElem hi, Option.getD_some]

/-- What is put behind the `n` mbufs of a ring leaves these alone. -/
theorem ringSlots_putMbs_before (mbs : Nat → Nat) {head n slot : Nat} {l : List Nat}
    (hslot : (head + n) % txCacheSize = slot) (hfit : n + l.length ≤ txCacheSize) :
    ringSlots (putMbs mbs slot l) head n = ringSlots mbs head n := by
  refine List.map_congr_left fun i hi => ?_
  have hlt := List.mem_range.mp hi
  unfold putMbs
  rw [if_neg]
  intro ⟨hge, hbelow⟩
  unfold txCacheSize at *
  omega

theorem ringSlots_append (mbs : Nat → Nat) (head n : Nat) {slot : Nat} {l : List Nat}
    (hslot : (head + n) % txCacheSize = slot) (hin : slot + l.length ≤ txCacheSize)
    (hfit : n + l.length ≤ txCacheSize) :
    ringSlots (putMbs mbs slot l) head (n + l.length) = ringSlots mbs head n ++ l := by
  rw [ringSlots_add, ringSlots_putMbs_before mbs hslot hfit]
  congr 1
  have hplace : (head + n) % txCacheSize = slot % txCacheSize := by
    rw [← hslot, Nat.mod_mod]
  rw [ringSlots_congr _ _ hplace, ringSlots_putMbs mbs hin]

/-- An allocation from the pool takes the mbufs it puts into the slots. -/
theorem allocBulk_some {mbs mbs' : Nat → Nat} {pool pool' : List Nat} {grant : Bool}
    {slot n : Nat} (h : allocBulk mbs pool grant slot n = some (mbs', pool')) :
    ∃ got, got.length = n ∧ pool = got ++ pool' ∧ mbs' = putMbs mbs slot got := by
  unfold allocBulk at h
  split at h
  · next hg =>
    cases h
    exact ⟨pool.take n, List.length_take_of_le hg.2, (List.take_append_drop n pool).symm, rfl⟩
  · cases h

/-- **What the pool gives is put behind the mbufs of the cache.** -/
theorem txcacheGrow_items (m : Mbufs) (grants : Bool × Bool) :
    ∃ got, m.pool = got ++ (txcacheGrow m grants).pool ∧
      ringSlots (txcacheGrow m grants).mbs m.cache.head
        (m.cache.n + (txcacheGrow m grants).added) = m.cache.items ++ got := by
  have hn := m.cache.n_le
  have htail := Nat.mod_lt (m.cache.head + m.cache.n) txCacheSize_pos
  have hnone : ∃ got, m.pool = got ++ m.pool ∧
      ringSlots m.cache.mbs m.cache.head (m.cache.n + 0) = m.cache.items ++ got :=
    ⟨[], rfl, (List.append_nil _).symm⟩
  unfold txcacheGrow
  dsimp only
  split
  · next hin =>
    split
    · next mbs pool halloc =>
      obtain ⟨got, hlen, hpool, rfl⟩ := allocBulk_some halloc
      refine ⟨got, hpool, ?_⟩
      have happ := ringSlots_append m.cache.mbs m.cache.head m.cache.n (l := got) rfl
        (by omega) (by omega)
      rwa [hlen] at happ
    · exact hnone
  · next hwrap =>
    split
    · next mbs pool halloc =>
      obtain ⟨got, hlen, hpool, rfl⟩ := allocBulk_some halloc
      have hfirst := ringSlots_append m.cache.mbs m.cache.head m.cache.n (l := got) rfl
        (by omega) (by omega)
      rw [hlen] at hfirst
      split
      · next mbs' pool' halloc' =>
        -- the slots up to the end are full, the others begin at 0
        obtain ⟨got', hlen', hpool', rfl⟩ := allocBulk_some halloc'
        refine ⟨got ++ got', by rw [hpool, hpool', List.append_assoc], ?_⟩
        have hzero : (m.cache.head + (m.cache.n + (txCacheSize -
            (m.cache.head + m.cache.n) % txCacheSize))) % txCacheSize = 0 := by
          unfold txCacheSize at *
          omega
        have hsecond := ringSlots_append (putMbs m.cache.mbs
          ((m.cache.head + m.cache.n) % txCacheSize) got) m.cache.head _ (l := got') hzero
          (by omega) (by omega)
        rw [hlen', hfirst, List.append_assoc, Nat.add_assoc m.cache.n] at hsecond
        exact hsecond
      · exact ⟨got, hpool, hfirst⟩
    · exact hnone

theorem txcacheRefill_items (m : Mbufs) (grants : Bool × Bool) (num : Nat) :
    ∃ got, m.pool = got ++ (txcacheRefill m grants num).pool ∧
      (txcacheRefill m grants num).cache.items = m.cache.items ++ got := by
  unfold txcacheRefill
  split
  · exact txcacheGrow_items m grants
  · exact ⟨[], rfl, (List.append_nil _).symm⟩

/-- The mbufs of a window. -/
def TxWindow.mbufs (w : TxWindow) (c : TxCache) : List Nat :=
  (List.range w.num).map fun k => c.mbs (w.base + k)

theorem TxWindow.mbufs_length (w : TxWindow) (c : TxCache) : (w.mbufs c).length = w.num := by
  unfold TxWindow.mbufs
  rw [List.length_map, List.length_range]

/-- The next mbuf of a window, in front of those behind it. -/
theorem TxWindow.drop_mbufs {w : TxWindow} {k : Nat} (c : TxCache) (hk : k < w.num) :
    (w.mbufs c).drop k = c.mbs (w.base + k) :: (w.mbufs c).drop (k + 1) := by
  have hlen : k < (w.mbufs c).length := by
    rw [w.mbufs_length]
    exact hk
  rw [List.drop_eq_getElem_cons hlen]
  congr 1
  simp only [TxWindow.mbufs, List.getElem_map, List.getElem_range]

/-- A window was taken off the cache: where it is, and what it took. -/
structure Allocated (m : Mbufs) (w : TxWindow) (m' : Mbufs) : Prop where
  inRing : w.base + w.num ≤ txCacheSize
  head : m'.cache.head = (w.base + w.num) % txCacheSize
  fits : m'.cache.n + w.num ≤ txCacheSize
  txMbs : m'.txMbs = m.txMbs
  taken : ∃ got, m.pool = got ++ m'.pool ∧
    w.mbufs m'.cache ++ m'.cache.items = m.cache.items ++ got

theorem TxCache.straight_le (c : TxCache) : c.straight ≤ c.n ∧ c.head + c.straight ≤ txCacheSize := by
  have hh := c.head_lt
  unfold TxCache.straight
  split <;> omega

/-- Taking `num` mbufs off the front of a cache. -/
theorem TxCache.advance_items (c : TxCache) {num : Nat} (hnum : num ≤ c.straight) :
    (TxWindow.mk c.head num).mbufs (c.advance num) ++ (c.advance num).items = c.items := by
  obtain ⟨hn, hin⟩ := c.straight_le
  have hsplit : c.items = ringSlots c.mbs c.head (num + (c.n - num)) := by
    rw [Nat.add_sub_cancel' (by omega)]
    rfl
  rw [hsplit, ringSlots_add, ringSlots_straight c.mbs (by omega)]
  congr 1
  exact ringSlots_congr c.mbs (c.n - num) (Nat.mod_mod _ _)

/-- **`txcache_alloc` takes the window off the front of the cache**, filled up
from the pool. -/
theorem txcacheAlloc_spec (m : Mbufs) (grants : Bool × Bool) (num : Nat) :
    Allocated m (txcacheAlloc m grants num).1 (txcacheAlloc m grants num).2 := by
  have hh := m.cache.head_lt
  have hn := m.cache.n_le
  unfold txcacheAlloc
  split
  · exact ⟨Nat.le_of_lt hh, (Nat.mod_eq_of_lt hh).symm, hn, rfl, [], rfl,
      (List.append_nil _).symm⟩
  · obtain ⟨got, hpool, hitems⟩ := txcacheRefill_items m grants num
    have htx : (txcacheRefill m grants num).txMbs = m.txMbs := by
      unfold txcacheRefill
      split <;> rfl
    generalize txcacheRefill m grants num = m₁ at hpool hitems htx
    obtain ⟨hsn, hin⟩ := m₁.cache.straight_le
    have hn₁ := m₁.cache.n_le
    have hle : min num m₁.cache.straight ≤ m₁.cache.straight := Nat.min_le_right ..
    refine ⟨by dsimp only; omega, rfl, ?_, htx, got, hpool, ?_⟩
    · show m₁.cache.n - min num m₁.cache.straight + min num m₁.cache.straight ≤ txCacheSize
      omega
    · rw [← hitems]
      exact m₁.cache.advance_items hle

/-- **Putting the rest of a window back** in front of the cache it was taken
off. -/
theorem TxCache.retreat_items {c : TxCache} {w : TxWindow} {k : Nat}
    (hin : w.base + w.num ≤ txCacheSize) (hhead : c.head = (w.base + w.num) % txCacheSize)
    (hk : k ≤ w.num) (hfit : c.n + k ≤ txCacheSize) :
    (c.retreat k hfit).items = (w.mbufs c).drop (w.num - k) ++ c.items := by
  have hstart : (c.head + txCacheSize - k) % txCacheSize % txCacheSize =
      (w.base + (w.num - k)) % txCacheSize := by
    unfold txCacheSize at *
    omega
  have hback : (w.base + (w.num - k) + k) % txCacheSize = c.head % txCacheSize := by
    rw [hhead, Nat.mod_mod]
    congr 1
    omega
  show ringSlots c.mbs ((c.head + txCacheSize - k) % txCacheSize) (c.n + k) = _
  rw [ringSlots_congr c.mbs _ hstart, Nat.add_comm c.n k, ringSlots_add,
    ringSlots_straight c.mbs (by omega), ringSlots_congr c.mbs _ hback]
  congr 1
  refine List.ext_getElem (by simp [TxWindow.mbufs]; omega) fun i h₁ h₂ => ?_
  simp only [TxWindow.mbufs, List.getElem_map, List.getElem_range, List.getElem_drop]
  rw [Nat.add_assoc]

/-- There is an mbuf for a packet: in the cache, or the pool fills the ring up
to its end. -/
def Mbufs.backed (m : Mbufs) (grants : Bool × Bool) : Bool :=
  decide (0 < m.cache.n) ||
    (grants.1 && decide (txCacheSize - m.cache.head ≤ m.pool.length))

theorem TxCache.straight_pos (c : TxCache) : 0 < c.straight ↔ 0 < c.n := by
  have hh := c.head_lt
  unfold TxCache.straight
  split <;> omega

/-- An empty cache gets an mbuf if the pool can fill it up to its end. -/
theorem txcacheGrow_empty {m : Mbufs} (grants : Bool × Bool) (hn : m.cache.n = 0) :
    0 < (txcacheGrow m grants).added ↔
      grants.1 = true ∧ txCacheSize - m.cache.head ≤ m.pool.length := by
  have hh := m.cache.head_lt
  have htail : (m.cache.head + m.cache.n) % txCacheSize = m.cache.head := by
    rw [hn, Nat.add_zero, Nat.mod_eq_of_lt hh]
  unfold txcacheGrow
  rw [htail, hn]
  dsimp only
  by_cases hin : m.cache.head + (txCacheSize - 0) ≤ txCacheSize
  · have hhead : m.cache.head = 0 := by omega
    rw [if_pos hin, hhead]
    unfold allocBulk
    by_cases hg : grants.1 = true ∧ txCacheSize - 0 ≤ m.pool.length
    · rw [if_pos hg]
      exact ⟨fun _ => hg, fun _ => txCacheSize_pos⟩
    · rw [if_neg hg]
      exact ⟨fun h => absurd h (Nat.lt_irrefl 0), fun h => absurd h hg⟩
  · rw [if_neg hin]
    cases halloc : allocBulk m.cache.mbs m.pool grants.1 m.cache.head
        (txCacheSize - m.cache.head) with
    | none =>
      unfold allocBulk at halloc
      split at halloc
      · cases halloc
      · next hg => exact ⟨fun h => absurd h (Nat.lt_irrefl 0), fun h => absurd h hg⟩
    | some r =>
      obtain ⟨mbs, pool⟩ := r
      have hg : grants.1 = true ∧ txCacheSize - m.cache.head ≤ m.pool.length := by
        unfold allocBulk at halloc
        split at halloc
        · assumption
        · cases halloc
      refine ⟨fun _ => hg, fun _ => ?_⟩
      dsimp only
      split
      · dsimp only
        omega
      · dsimp only
        omega

/-- **When `txcache_alloc` returns an mbuf.** -/
theorem txcacheAlloc_backed (m : Mbufs) (grants : Bool × Bool) {num : Nat} (hnum : 0 < num) :
    0 < (txcacheAlloc m grants num).1.num ↔ m.backed grants = true := by
  have hmin : 0 < (txcacheAlloc m grants num).1.num ↔
      0 < (txcacheRefill m grants num).cache.n := by
    unfold txcacheAlloc
    rw [if_neg (by omega), ← TxCache.straight_pos]
    dsimp only
    omega
  rw [hmin]
  unfold txcacheRefill Mbufs.backed
  by_cases hn : m.cache.n = 0
  · rw [if_pos (by omega)]
    have hempty := txcacheGrow_empty grants hn
    simp only [hn, Nat.lt_irrefl, decide_false, Bool.false_or, Bool.and_eq_true,
      decide_eq_true_eq, Nat.zero_add]
    exact hempty
  · have hpos : 0 < m.cache.n := Nat.pos_of_ne_zero hn
    rw [decide_eq_true hpos, Bool.true_or]
    refine ⟨fun _ => rfl, fun _ => ?_⟩
    split
    · show 0 < m.cache.n + _
      omega
    · exact hpos

/-! ## Where a freed mbuf is -/

/-- The mbuf is in the cache or, when that is full, in the pool again. -/
def Mbufs.Returned (m : Mbufs) (mb : Nat) : Prop := mb ∈ m.cache.items ∨ mb ∈ m.pool

theorem txcacheFree_returned (m : Mbufs) (mb : Nat) : (txcacheFree m mb).Returned mb := by
  unfold txcacheFree
  split
  · next h =>
    refine .inl ?_
    show mb ∈ (m.cache.push mb h).items
    rw [TxCache.push_items]
    exact List.mem_cons_self
  · exact .inr List.mem_cons_self

/-- What was returned stays so when another mbuf is. -/
theorem Mbufs.Returned.free {m : Mbufs} {mb : Nat} (h : m.Returned mb) (mb' : Nat) :
    (txcacheFree m mb').Returned mb := by
  unfold txcacheFree
  split
  · next hn =>
    rcases h with h | h
    · refine .inl ?_
      show mb ∈ (m.cache.push mb' hn).items
      rw [TxCache.push_items]
      exact List.mem_cons_of_mem mb' h
    · exact .inr h
  · rcases h with h | h
    · exact .inl h
    · exact .inr (List.mem_cons_of_mem mb' h)

end Chamelio.Fast
