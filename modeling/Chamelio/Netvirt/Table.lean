/-!
# The network virtualisation table (`netvirt/netvirt_table.c`)

A table of 64 entries under two 32-bit keys, searched by linear probing from
the hash of the keys. The inner table maps a GRE key and an inner address to
the guest that has it and to the address of its host.

Mirroring notes: an entry whose first key is `NETVIRT_INVALID` (all ones)
counts as empty, whatever the rest of it says. The entry under the two keys
`NETVIRT_INVALID`, `NETVIRT_INVALID` is therefore found in every table that
has an empty entry where the search begins.
-/

namespace Chamelio.Netvirt

/-- `NETVIRT_LEN`. -/
def netvirtLen : Nat := 64
/-- `NETVIRT_INVALID`, as the fields of an entry hold it. -/
def netvirtInvalid : UInt32 := 0xffffffff

/-- `struct netvirt_entry`. -/
structure NetvirtEntry where
  keya : UInt32
  keyb : UInt32
  gid : UInt32
  greKey : UInt32
  innerIp : UInt32
  outerIp : UInt32
  deriving DecidableEq, Repr

/-- `struct netvirt_table`. -/
structure NetvirtTable where
  vals : Nat → NetvirtEntry

/-- `netvirt_table_init`. -/
def netvirtTableInit : NetvirtTable where
  vals _ := ⟨netvirtInvalid, netvirtInvalid, netvirtInvalid, netvirtInvalid, netvirtInvalid,
    netvirtInvalid⟩

/-- `hash_ints`. -/
def hashInts (a b : UInt32) : Nat :=
  let h : UInt64 := 0xcbf29ce484222325
  let h := (h ^^^ a.toUInt64) * 0x100000001b3
  let h := (h ^^^ b.toUInt64) * 0x100000001b3
  h.toNat % netvirtLen

/-- The loop of `netvirt_table_set`, for `n` entries from `hash` on; `none`
for `-1`. -/
def netvirtSetLoop (t : NetvirtTable) (e : NetvirtEntry) : Nat → Nat → Option NetvirtTable
  | 0, _ => none
  | n + 1, hash =>
    let v := t.vals hash
    if v.keya = netvirtInvalid ∨ (v.keya = e.keya ∧ v.keyb = e.keyb) then
      some { vals := fun i => if i = hash then e else t.vals i }
    else netvirtSetLoop t e n ((hash + 1) % netvirtLen)

/-- `netvirt_table_set`. -/
def netvirtTableSet (t : NetvirtTable) (e : NetvirtEntry) : Option NetvirtTable :=
  netvirtSetLoop t e netvirtLen (hashInts e.keya e.keyb)

/-- The loop of `netvirt_table_get`, for `n` entries from `hash` on. -/
def netvirtGetLoop (t : NetvirtTable) (keya keyb : UInt32) : Nat → Nat → Option NetvirtEntry
  | 0, _ => none
  | n + 1, hash =>
    let e := t.vals hash
    if e.keya = keya ∧ e.keyb = keyb then some e
    else if e.keya = netvirtInvalid then none
    else netvirtGetLoop t keya keyb n ((hash + 1) % netvirtLen)

/-- `netvirt_table_get`. -/
def netvirtTableGet (t : NetvirtTable) (keya keyb : UInt32) : Option NetvirtEntry :=
  netvirtGetLoop t keya keyb netvirtLen (hashInts keya keyb)

/-- The table has an entry under `keya`, `keyb` that names guest `gid`. -/
def NetvirtTable.Assigns (t : NetvirtTable) (keya keyb gid : UInt32) : Prop :=
  ∃ i, i < netvirtLen ∧ (t.vals i).keya = keya ∧ (t.vals i).keyb = keyb ∧ (t.vals i).gid = gid

theorem hashInts_lt (a b : UInt32) : hashInts a b < netvirtLen := Nat.mod_lt _ (by decide)

/-- What a search finds stands in the table under the keys searched for. -/
theorem netvirtGetLoop_assigns {t : NetvirtTable} {keya keyb : UInt32} {e : NetvirtEntry} {n : Nat}
    {hash : Nat} (hlt : hash < netvirtLen) (h : netvirtGetLoop t keya keyb n hash = some e) :
    t.Assigns keya keyb e.gid := by
  induction n generalizing hash with
  | zero => cases h
  | succ n ih =>
    rw [netvirtGetLoop] at h
    split at h
    · next hk =>
      cases h
      exact ⟨hash, hlt, hk.1, hk.2, rfl⟩
    · split at h
      · cases h
      · exact ih (Nat.mod_lt _ (by decide)) h

theorem netvirtTableGet_assigns {t : NetvirtTable} {keya keyb : UInt32} {e : NetvirtEntry}
    (h : netvirtTableGet t keya keyb = some e) : t.Assigns keya keyb e.gid :=
  netvirtGetLoop_assigns (hashInts_lt keya keyb) h

end Chamelio.Netvirt
