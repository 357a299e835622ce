import Chamelio.Lib.ProbeMap
import Chamelio.Lib.Run
import Chamelio.Netvirt.Table

/-!
# The network virtualisation table is a finite map

`netvirt_table_set` and `netvirt_table_get` in any order from a table fresh
from `netvirt_table_init`, under key pairs whose first component is not
`NETVIRT_INVALID`. The loops of the source are the searches of `Lib.Probe`
over one key, the pair of keys of an entry or `none` for an entry that counts
as empty (`netvirtSetLoop_eq`, `netvirtGetLoop_eq`).
-/

namespace Chamelio.Netvirt

open Chamelio.Lib

/-- The key pair of an entry; `none` for an entry that counts as empty. -/
def NetvirtEntry.key (e : NetvirtEntry) : Option (UInt32 × UInt32) :=
  if e.keya = netvirtInvalid then none else some (e.keya, e.keyb)

/-- The keys of the table. -/
def NetvirtTable.keys (t : NetvirtTable) (i : Nat) : Option (UInt32 × UInt32) := (t.vals i).key

/-- The hash of a key pair. -/
def hashKey : Option (UInt32 × UInt32) → Nat
  | none => 0
  | some (a, b) => hashInts a b

/-- The entries looked at for a key pair, in order. -/
def netvirtSlot (k : Option (UInt32 × UInt32)) (i : Nat) : Nat := (hashKey k + i) % netvirtLen

/-- The table with `e` at `i`. -/
def NetvirtTable.put (t : NetvirtTable) (i : Nat) (e : NetvirtEntry) : NetvirtTable where
  vals j := if j = i then e else t.vals j

/-- No entry is empty. -/
def NetvirtTable.Full (t : NetvirtTable) : Prop :=
  ∀ i, i < netvirtLen → (t.vals i).keya ≠ netvirtInvalid

theorem netvirtSlot_cycle : Cycle netvirtSlot netvirtLen := Cycle.linear (fun _ _ => rfl) (by decide)

section keys

variable {t : NetvirtTable} {e : NetvirtEntry} {a b : UInt32}

theorem key_none : e.key = none ↔ e.keya = netvirtInvalid := by
  unfold NetvirtEntry.key
  split
  · next h => simp [h]
  · next h => simp [h]

theorem key_some (ha : a ≠ netvirtInvalid) : e.key = some (a, b) ↔ e.keya = a ∧ e.keyb = b := by
  unfold NetvirtEntry.key
  split
  · next h =>
    refine ⟨fun hk => (by cases hk), fun ⟨hk, _⟩ => ?_⟩
    exact absurd (hk.symm.trans h) ha
  · rw [Option.some_inj, Prod.mk.injEq]

theorem key_self (ha : e.keya ≠ netvirtInvalid) : e.key = some (e.keya, e.keyb) := if_neg ha

theorem keys_put {i : Nat} (ha : e.keya ≠ netvirtInvalid) :
    (t.put i e).keys = putKey t.keys i (some (e.keya, e.keyb)) := by
  funext j
  unfold NetvirtTable.keys NetvirtTable.put putKey
  dsimp only
  split
  · exact key_self ha
  · rfl

theorem full_iff_keys : t.Full ↔ ∀ i, i < netvirtLen → t.keys i ≠ none := by
  unfold NetvirtTable.Full NetvirtTable.keys
  refine forall_congr' fun i => imp_congr_right fun _ => ?_
  rw [ne_eq, ne_eq, key_none]

/-! ## The loops are searches -/

/-- The entry after that of step `i` is that of step `i + 1`. -/
theorem netvirtSlot_next (k : Option (UInt32 × UInt32)) (i : Nat) :
    (netvirtSlot k i + 1) % netvirtLen = netvirtSlot k (i + 1) := by
  unfold netvirtSlot netvirtLen
  omega

theorem netvirtSetLoop_eq (ha : e.keya ≠ netvirtInvalid) (n i : Nat) :
    netvirtSetLoop t e n (netvirtSlot (some (e.keya, e.keyb)) i) =
      (place (netvirtSlot (some (e.keya, e.keyb))) t.keys none (some (e.keya, e.keyb)) n i).map
        fun b => t.put b e := by
  induction n generalizing i with
  | zero => rfl
  | succ n ih =>
    rw [netvirtSetLoop, place, netvirtSlot_next, ih]
    have hiff : (t.vals (netvirtSlot (some (e.keya, e.keyb)) i)).keya = netvirtInvalid ∨
        (t.vals (netvirtSlot (some (e.keya, e.keyb)) i)).keya = e.keya ∧
          (t.vals (netvirtSlot (some (e.keya, e.keyb)) i)).keyb = e.keyb ↔
        t.keys (netvirtSlot (some (e.keya, e.keyb)) i) = none ∨
          t.keys (netvirtSlot (some (e.keya, e.keyb)) i) = some (e.keya, e.keyb) := by
      unfold NetvirtTable.keys
      rw [key_none, key_some ha]
    by_cases hc : t.keys (netvirtSlot (some (e.keya, e.keyb)) i) = none ∨
        t.keys (netvirtSlot (some (e.keya, e.keyb)) i) = some (e.keya, e.keyb)
    · rw [if_pos hc, Option.map_some, if_pos (hiff.mpr hc)]
      rfl
    · rw [if_neg hc, if_neg (fun h => hc (hiff.mp h))]

theorem netvirtGetLoop_eq (ha : a ≠ netvirtInvalid) (n i : Nat) :
    netvirtGetLoop t a b n (netvirtSlot (some (a, b)) i) =
      (probe (netvirtSlot (some (a, b))) t.keys none (some (a, b)) n i).map t.vals := by
  induction n generalizing i with
  | zero => rfl
  | succ n ih =>
    rw [netvirtGetLoop, probe, netvirtSlot_next, ih]
    unfold NetvirtTable.keys
    by_cases hk : (t.vals (netvirtSlot (some (a, b)) i)).keya = a ∧
        (t.vals (netvirtSlot (some (a, b)) i)).keyb = b
    · rw [if_pos hk, if_pos ((key_some ha).mpr hk), Option.map_some]
    · rw [if_neg hk, if_neg (fun h => hk ((key_some ha).mp h))]
      by_cases he : (t.vals (netvirtSlot (some (a, b)) i)).keya = netvirtInvalid
      · rw [if_pos he, if_pos (key_none.mpr he), Option.map_none]
      · rw [if_neg he, if_neg (fun h => he (key_none.mp h))]

theorem netvirtSlot_zero : netvirtSlot (some (a, b)) 0 = hashInts a b := by
  unfold netvirtSlot hashKey
  rw [Nat.add_zero, Nat.mod_eq_of_lt (hashInts_lt a b)]

/-- The index at which `netvirt_table_set` writes. -/
def netvirtPlace (t : NetvirtTable) (a b : UInt32) : Option Nat :=
  place (netvirtSlot (some (a, b))) t.keys none (some (a, b)) netvirtLen 0

/-- The index at which `netvirt_table_get` finds its entry. -/
def netvirtProbe (t : NetvirtTable) (a b : UInt32) : Option Nat :=
  probe (netvirtSlot (some (a, b))) t.keys none (some (a, b)) netvirtLen 0

theorem netvirtTableSet_eq (ha : e.keya ≠ netvirtInvalid) :
    netvirtTableSet t e = (netvirtPlace t e.keya e.keyb).map fun i => t.put i e := by
  unfold netvirtTableSet
  rw [← netvirtSlot_zero, netvirtSetLoop_eq ha]
  rfl

theorem netvirtTableGet_eq (ha : a ≠ netvirtInvalid) :
    netvirtTableGet t a b = (netvirtProbe t a b).map t.vals := by
  unfold netvirtTableGet
  rw [← netvirtSlot_zero, netvirtGetLoop_eq ha]
  rfl

end keys

/-! ## What the table holds -/

/-- Every entry that does not count as empty is found under its keys. -/
def TableInv (t : NetvirtTable) : Prop := Probed netvirtSlot t.keys none netvirtLen

theorem netvirtTableInit_inv : TableInv netvirtTableInit := by
  intro i _ hne
  exact absurd rfl hne

section inv

variable {t : NetvirtTable} {e : NetvirtEntry} {a b : UInt32}

theorem TableInv.probe_iff (h : TableInv t) {i : Nat} (ha : a ≠ netvirtInvalid) :
    netvirtProbe t a b = some i ↔
      i < netvirtLen ∧ (t.vals i).keya = a ∧ (t.vals i).keyb = b := by
  unfold netvirtProbe
  rw [h.found_iff netvirtSlot_cycle (Option.some_ne_none _), ← key_some ha]
  rfl

/-- **What a search returns is the one entry of the table under its keys.** -/
theorem TableInv.get_iff (h : TableInv t) (ha : a ≠ netvirtInvalid) :
    netvirtTableGet t a b = some e ↔
      ∃ i, i < netvirtLen ∧ t.vals i = e ∧ e.keya = a ∧ e.keyb = b := by
  rw [netvirtTableGet_eq ha, Option.map_eq_some_iff]
  constructor
  · intro ⟨i, hi, he⟩
    obtain ⟨hlt, hka, hkb⟩ := (h.probe_iff ha).mp hi
    exact ⟨i, hlt, he, he ▸ hka, he ▸ hkb⟩
  · intro ⟨i, hlt, he, hka, hkb⟩
    exact ⟨i, (h.probe_iff ha).mpr ⟨hlt, he ▸ hka, he ▸ hkb⟩, he⟩

/-- A set under keys that are not the marker keeps the table well formed. -/
theorem TableInv.put (h : TableInv t) {i : Nat} (ha : e.keya ≠ netvirtInvalid)
    (hi : netvirtPlace t e.keya e.keyb = some i) : TableInv (t.put i e) := by
  unfold TableInv
  rw [keys_put ha]
  exact Probed.put h hi

/-- **A set is found under its own keys.** -/
theorem TableInv.get_put (h : TableInv t) {i : Nat} (ha : e.keya ≠ netvirtInvalid)
    (hi : netvirtPlace t e.keya e.keyb = some i) :
    netvirtTableGet (t.put i e) e.keya e.keyb = some e :=
  ((h.put ha hi).get_iff ha).mpr ⟨i, netvirtSlot_cycle.place_lt hi, if_pos rfl, rfl, rfl⟩

/-- **And leaves every other pair alone.** -/
theorem TableInv.get_put_ne (h : TableInv t) {i : Nat} (ha : e.keya ≠ netvirtInvalid)
    (hi : netvirtPlace t e.keya e.keyb = some i) (ha' : a ≠ netvirtInvalid)
    (hne : (a, b) ≠ (e.keya, e.keyb)) :
    netvirtTableGet (t.put i e) a b = netvirtTableGet t a b := by
  have hp : netvirtProbe (t.put i e) a b = netvirtProbe t a b := by
    unfold netvirtProbe
    rw [keys_put ha]
    exact Probed.probe_put h netvirtSlot_cycle (Option.some_ne_none _)
      (fun heq => hne (Option.some.inj heq)) hi
  rw [netvirtTableGet_eq ha', netvirtTableGet_eq ha', hp]
  cases hf : netvirtProbe t a b with
  | none => rfl
  | some j =>
    rw [hf] at hp
    -- the entry found is not the one written, which has other keys
    have hji : j ≠ i := by
      intro heq
      obtain ⟨-, hka, hkb⟩ := ((h.put ha hi).probe_iff ha').mp hp
      rw [heq, show (t.put i e).vals i = e from if_pos rfl] at hka hkb
      exact hne (Prod.ext hka.symm hkb.symm)
    exact congrArg some (if_neg hji)

/-- **A set fails exactly for a new pair in a full table.** -/
theorem TableInv.set_none_iff (h : TableInv t) (ha : e.keya ≠ netvirtInvalid) :
    netvirtTableSet t e = none ↔ netvirtTableGet t e.keya e.keyb = none ∧ t.Full := by
  rw [netvirtTableSet_eq ha, netvirtTableGet_eq ha, Option.map_eq_none_iff, Option.map_eq_none_iff,
    full_iff_keys]
  exact Probed.place_none_iff h netvirtSlot_cycle (Option.some_ne_none _)

/-- A full table is one with `NETVIRT_LEN` pairs. -/
theorem TableInv.full_iff (h : TableInv t) :
    t.Full ↔ {k : UInt32 × UInt32 | k.1 ≠ netvirtInvalid ∧
      netvirtTableGet t k.1 k.2 ≠ none}.ncard = netvirtLen := by
  have hmap : (heldKeys t.keys none netvirtLen : Set (Option (UInt32 × UInt32))) =
      some '' {k : UInt32 × UInt32 | k.1 ≠ netvirtInvalid ∧
        netvirtTableGet t k.1 k.2 ≠ none} := by
    ext k
    rw [Finset.mem_coe, mem_heldKeys]
    constructor
    · intro ⟨hne, i, hlt, hk⟩
      have ha : (t.vals i).keya ≠ netvirtInvalid := by
        intro hinv
        exact hne (hk ▸ key_none.mpr hinv)
      refine ⟨((t.vals i).keya, (t.vals i).keyb), ⟨ha, ?_⟩, (key_self ha).symm.trans hk⟩
      rw [(h.get_iff ha).mpr ⟨i, hlt, rfl, rfl, rfl⟩]
      exact Option.some_ne_none _
    · intro ⟨⟨a, b⟩, ⟨ha, hget⟩, hk⟩
      obtain ⟨e, he⟩ := Option.ne_none_iff_exists'.mp hget
      obtain ⟨i, hlt, hv, hka, hkb⟩ := (h.get_iff ha).mp he
      refine ⟨hk ▸ Option.some_ne_none _, i, hlt, ?_⟩
      rw [← hk]
      exact (key_some ha).mpr ⟨hv ▸ hka, hv ▸ hkb⟩
  rw [full_iff_keys, Probed.full_iff h, ← Set.ncard_coe_finset, hmap,
    Set.ncard_image_of_injective _ (Option.some_injective _)]

end inv

/-! ## Runs -/

/-- A call of the table. -/
inductive NetvirtCall
  | set (e : NetvirtEntry)
  | get (a b : UInt32)

/-- The key pair of a call. -/
def NetvirtCall.key : NetvirtCall → UInt32 × UInt32
  | .set e => (e.keya, e.keyb)
  | .get a b => (a, b)

/-- A call that returned: a set with whether it returned `0`, a get with the
entry it returned, `none` for `NULL`. -/
inductive NetvirtReturn
  | set (e : NetvirtEntry) (ok : Bool)
  | get (a b : UInt32) (ret : Option NetvirtEntry)

/-- One call. -/
def netvirtStep (t : NetvirtTable) : NetvirtCall → NetvirtTable × NetvirtReturn
  | .set e =>
    match netvirtTableSet t e with
    | none => (t, .set e false)
    | some t' => (t', .set e true)
  | .get a b => (t, .get a b (netvirtTableGet t a b))

theorem netvirtStep_set_none {t : NetvirtTable} {e : NetvirtEntry}
    (h : netvirtTableSet t e = none) : netvirtStep t (.set e) = (t, .set e false) := by
  simp only [netvirtStep, h]

theorem netvirtStep_set_some {t t' : NetvirtTable} {e : NetvirtEntry}
    (h : netvirtTableSet t e = some t') : netvirtStep t (.set e) = (t', .set e true) := by
  simp only [netvirtStep, h]

/-- What a call that returned does to the map. -/
def NetvirtReturn.apply (m : UInt32 × UInt32 → Option NetvirtEntry) :
    NetvirtReturn → UInt32 × UInt32 → Option NetvirtEntry
  | .set e true => Function.update m (e.keya, e.keyb) (some e)
  | .set _ false | .get _ _ _ => m

/-- The entries of the last successful sets. -/
def netvirtMap (log : List NetvirtReturn) : UInt32 × UInt32 → Option NetvirtEntry :=
  log.foldl NetvirtReturn.apply fun _ => none

/-- The calls are made under pairs whose first component is not the marker. -/
def NetvirtCallOk (_ : NetvirtTable) (c : NetvirtCall) : Prop := c.key.1 ≠ netvirtInvalid

instance (t : NetvirtTable) (c : NetvirtCall) : Decidable (NetvirtCallOk t c) :=
  inferInstanceAs (Decidable (c.key.1 ≠ netvirtInvalid))

/-- What holds after any calls: the table is well formed, and a search in it is
a search in the map. -/
structure MapInv (log : List NetvirtReturn) (t : NetvirtTable) : Prop where
  table : TableInv t
  get : ∀ a b, a ≠ netvirtInvalid → netvirtTableGet t a b = netvirtMap log (a, b)

theorem netvirtMap_snoc (log : List NetvirtReturn) (r : NetvirtReturn) :
    netvirtMap (log ++ [r]) = r.apply (netvirtMap log) := by
  unfold netvirtMap
  rw [List.foldl_append]
  rfl

theorem netvirtTableGet_init {a b : UInt32} (ha : a ≠ netvirtInvalid) :
    netvirtTableGet netvirtTableInit a b = none := by
  cases h : netvirtTableGet netvirtTableInit a b with
  | none => rfl
  | some e =>
    obtain ⟨i, -, he, hka, -⟩ := (netvirtTableInit_inv.get_iff ha).mp h
    rw [← he] at hka
    exact absurd hka.symm ha

theorem mapInv_init : MapInv [] netvirtTableInit :=
  ⟨netvirtTableInit_inv, fun _ _ ha => netvirtTableGet_init ha⟩

section step

variable {log : List NetvirtReturn} {t t' : NetvirtTable} {e : NetvirtEntry}

/-- A set that succeeds writes one entry. -/
theorem set_some (ha : e.keya ≠ netvirtInvalid) (h : netvirtTableSet t e = some t') :
    ∃ i, netvirtPlace t e.keya e.keyb = some i ∧ t' = t.put i e := by
  rw [netvirtTableSet_eq ha] at h
  obtain ⟨i, hi, ht⟩ := Option.map_eq_some_iff.mp h
  exact ⟨i, hi, ht.symm⟩

/-- **One call keeps the table and its map together.** -/
theorem MapInv.step (h : MapInv log t) {c : NetvirtCall} (hc : NetvirtCallOk t c) :
    MapInv (log ++ [(netvirtStep t c).2]) (netvirtStep t c).1 := by
  cases c with
  | get a b =>
    refine ⟨h.table, ?_⟩
    rw [netvirtMap_snoc]
    exact h.get
  | set e =>
    cases hs : netvirtTableSet t e with
    | none =>
      rw [netvirtStep_set_none hs]
      refine ⟨h.table, ?_⟩
      rw [netvirtMap_snoc]
      exact h.get
    | some t' =>
      rw [netvirtStep_set_some hs]
      obtain ⟨i, hi, ht⟩ := set_some hc hs
      refine ⟨ht ▸ h.table.put hc hi, fun a b ha => ?_⟩
      rw [netvirtMap_snoc, show (NetvirtReturn.set e true).apply (netvirtMap log) =
        Function.update (netvirtMap log) (e.keya, e.keyb) (some e) from rfl]
      dsimp only
      rw [ht]
      by_cases heq : (a, b) = (e.keya, e.keyb)
      · obtain ⟨rfl, rfl⟩ := Prod.mk.inj heq
        rw [Function.update_self]
        exact h.table.get_put hc hi
      · rw [Function.update_of_ne heq, h.table.get_put_ne hc hi ha heq]
        exact h.get a b ha

theorem netvirtRun_map (hr : Run NetvirtCallOk netvirtStep netvirtTableInit log t) :
    MapInv log t :=
  hr.inv (I := MapInv) mapInv_init fun _ _ _ h hc => h.step hc

/-- A call leaves what other pairs find. -/
theorem MapInv.step_ne (h : MapInv log t) {c : NetvirtCall} (hc : NetvirtCallOk t c)
    {a b : UInt32} (ha : a ≠ netvirtInvalid) (hne : (a, b) ≠ c.key) :
    netvirtTableGet (netvirtStep t c).1 a b = netvirtTableGet t a b := by
  cases c with
  | get a' b' => rfl
  | set e =>
    cases hs : netvirtTableSet t e with
    | none => rw [netvirtStep_set_none hs]
    | some t' =>
      obtain ⟨i, hi, ht⟩ := set_some hc hs
      rw [netvirtStep_set_some hs, ht]
      exact h.table.get_put_ne hc hi ha hne

end step

/-- **The network virtualisation table refines a finite map.** After any calls
under pairs whose first component is not `NETVIRT_INVALID`, with any
collisions and overwrites:
* `netvirt_table_get` of a pair returns the entry of the last successful set
  of that pair, or `NULL` if there was none;
* a further call leaves what every other pair finds;
* a set returns `-1` exactly for a new pair in a full table, and then changes
  nothing;
* the table is full exactly when the map has `NETVIRT_LEN` pairs. -/
theorem netvirt_table_refines_map {log : List NetvirtReturn} {t : NetvirtTable}
    (hr : Run NetvirtCallOk netvirtStep netvirtTableInit log t) :
    (∀ a b, a ≠ netvirtInvalid → netvirtTableGet t a b = netvirtMap log (a, b)) ∧
    (∀ c, c.key.1 ≠ netvirtInvalid → ∀ a b, a ≠ netvirtInvalid → (a, b) ≠ c.key →
      netvirtTableGet (netvirtStep t c).1 a b = netvirtTableGet t a b) ∧
    (∀ e, e.keya ≠ netvirtInvalid →
      (netvirtTableSet t e = none ↔ netvirtMap log (e.keya, e.keyb) = none ∧ t.Full) ∧
      (netvirtTableSet t e = none → (netvirtStep t (.set e)).1 = t)) ∧
    (t.Full ↔ {k : UInt32 × UInt32 | k.1 ≠ netvirtInvalid ∧ netvirtMap log k ≠ none}.ncard =
      netvirtLen) := by
  have h := netvirtRun_map hr
  refine ⟨h.get, ?_, ?_, ?_⟩
  · intro c hc a b ha hne
    exact h.step_ne hc ha hne
  · intro e ha
    refine ⟨?_, fun hs => ?_⟩
    · rw [h.table.set_none_iff ha, h.get e.keya e.keyb ha]
    · rw [netvirtStep_set_none hs]
  · rw [h.table.full_iff]
    have hset : {k : UInt32 × UInt32 | k.1 ≠ netvirtInvalid ∧ netvirtTableGet t k.1 k.2 ≠ none} =
        {k : UInt32 × UInt32 | k.1 ≠ netvirtInvalid ∧ netvirtMap log k ≠ none} := by
      ext k
      refine and_congr_right fun ha => ?_
      rw [h.get k.1 k.2 ha]
    rw [hset]

/-- Two pairs with the same first key, one of them overwritten. -/
theorem netvirt_table_refines_map_overwrite :
    ∃ log t, Run NetvirtCallOk netvirtStep netvirtTableInit log t ∧
      netvirtMap log (1, 10) = some ⟨1, 10, 6, 1, 10, 20⟩ ∧
      netvirtTableGet t 1 10 = netvirtMap log (1, 10) := by
  have hrun := Run.execOk
    [.set ⟨1, 10, 5, 1, 10, 20⟩, .set ⟨1, 11, 5, 1, 11, 20⟩, .set ⟨1, 10, 6, 1, 10, 20⟩]
    (Run.nil : Run NetvirtCallOk netvirtStep netvirtTableInit [] _) (by decide +kernel)
  exact ⟨_, _, hrun, by decide +kernel, (netvirt_table_refines_map hrun).1 1 10 (by decide)⟩

end Chamelio.Netvirt
