import Chamelio.Lib.Probe

/-!
# The ARP table (`arp/arp.c`, `arp_table_*`)

A hash table of `ARP_TABLE_SIZE` buckets searched by linear probing. The
control path has one, with a pointer from each entry to its timer, and so has
every core. Nothing is ever removed from it, so the general facts of
`Lib.Probe` apply; the lemmas below read them for addresses other than
`ARP_IP_EMPTY`.

Mirroring notes: a pointer to an entry is the index of its bucket. `te` is an
index of the timeout manager, `none` for `NULL`; `arp_table_init` does not
write it. Looking up `ARP_IP_EMPTY` finds the first empty bucket, as in the
source.
-/

namespace Chamelio.Arp

open Chamelio.Lib

/-- `struct eth_addr`: six bytes. -/
structure EthAddr where
  b0 : UInt8
  b1 : UInt8
  b2 : UInt8
  b3 : UInt8
  b4 : UInt8
  b5 : UInt8
  deriving DecidableEq, Repr

/-- `ARP_TABLE_SIZE`. -/
def arpTableSize : Nat := 64
/-- `ARP_TABLE_MASK`. -/
def arpTableMask : UInt32 := 63
/-- `ARP_IP_EMPTY`. -/
def arpIpEmpty : UInt32 := 0

/-- `struct arp_table_entry`. -/
structure ArpTableEntry where
  ip : UInt32
  pending : Bool
  mac : EthAddr
  te : Option Nat

/-- `struct arp_table`. -/
structure ArpTable where
  buckets : Nat → ArpTableEntry

namespace ArpTable

def set (t : ArpTable) (b : Nat) (e : ArpTableEntry) : ArpTable :=
  { buckets := fun j => if j = b then e else t.buckets j }

@[simp] theorem set_same (t : ArpTable) (b : Nat) (e : ArpTableEntry) :
    (t.set b e).buckets b = e := if_pos rfl

theorem set_ne (t : ArpTable) {b j : Nat} (e : ArpTableEntry) (h : j ≠ b) :
    (t.set b e).buckets j = t.buckets j := if_neg h

/-- The addresses of the buckets. -/
def keys (t : ArpTable) (b : Nat) : UInt32 := (t.buckets b).ip

/-- `arp_table_init`. -/
def arpTableInit (mem : ArpTable) : ArpTable :=
  { buckets := fun i => { mem.buckets i with ip := arpIpEmpty, pending := false } }

end ArpTable

open ArpTable

/-- `hash_ip`. -/
def hashIp (ip : UInt32) : UInt32 := ip &&& arpTableMask

/-- `(hash + i) & ARP_TABLE_MASK`. -/
def arpSlot (ip : UInt32) (i : Nat) : Nat := ((hashIp ip + UInt32.ofNat i) &&& arpTableMask).toNat

/-- `arp_lookup`. -/
def arpLookup (t : ArpTable) (ip : UInt32) : Option Nat :=
  probe (arpSlot ip) t.keys arpIpEmpty ip arpTableSize 0

/-- The bucket `arp_insert` and `arp_insert_pending` stop at. -/
def arpBucket (t : ArpTable) (ip : UInt32) : Option Nat :=
  place (arpSlot ip) t.keys arpIpEmpty ip arpTableSize 0

/-- `arp_insert`. -/
def arpInsert (t : ArpTable) (ip : UInt32) (mac : EthAddr) : ArpTable × Option Nat :=
  match arpBucket t ip with
  | none => (t, none)
  | some b => (t.set b { t.buckets b with ip, pending := false, mac }, some b)

/-- `arp_insert_pending`. -/
def arpInsertPending (t : ArpTable) (ip : UInt32) : ArpTable × Option Nat :=
  match arpBucket t ip with
  | none => (t, none)
  | some b => (t.set b { t.buckets b with ip, pending := true }, some b)

/-! ## What the table holds -/

/-- `ip` is in the table and waits for its address. -/
def Pending (t : ArpTable) (ip : UInt32) : Prop :=
  ∃ b, arpLookup t ip = some b ∧ (t.buckets b).pending = true

/-- `ip` is in the table with its address. -/
def Resolved (t : ArpTable) (ip : UInt32) : Prop :=
  ∃ b, arpLookup t ip = some b ∧ (t.buckets b).pending = false

instance (t : ArpTable) (ip : UInt32) : Decidable (Pending t ip) :=
  match h : arpLookup t ip with
  | none => .isFalse (by rintro ⟨b, hb, -⟩; rw [h] at hb; cases hb)
  | some b =>
    if hp : (t.buckets b).pending = true then .isTrue ⟨b, h, hp⟩
    else .isFalse (by rintro ⟨c, hc, hpend⟩; rw [h] at hc; cases hc; exact hp hpend)

instance (t : ArpTable) (ip : UInt32) : Decidable (Resolved t ip) :=
  match h : arpLookup t ip with
  | none => .isFalse (by rintro ⟨b, hb, -⟩; rw [h] at hb; cases hb)
  | some b =>
    if hp : (t.buckets b).pending = false then .isTrue ⟨b, h, hp⟩
    else .isFalse (by rintro ⟨c, hc, hpend⟩; rw [h] at hc; cases hc; exact hp hpend)

/-- Every occupied bucket is found, and an empty one does not wait. -/
structure TableInv (t : ArpTable) : Prop where
  found : Probed arpSlot t.keys arpIpEmpty arpTableSize
  idle : ∀ b, b < arpTableSize → (t.buckets b).ip = arpIpEmpty → (t.buckets b).pending = false

theorem arpSlot_lt (ip : UInt32) (i : Nat) : arpSlot ip i < arpTableSize := by
  unfold arpSlot arpTableMask arpTableSize
  rw [UInt32.toNat_and]
  exact Nat.lt_of_le_of_lt Nat.and_le_right (by decide)

theorem arpLookup_ip {t : ArpTable} {ip : UInt32} {b : Nat} (h : arpLookup t ip = some b) :
    (t.buckets b).ip = ip ∧ b < arpTableSize := by
  obtain ⟨hk, j, -, -, hb⟩ := probe_some h
  exact ⟨hk, hb ▸ arpSlot_lt ip j⟩

/-- What is in a bucket is found there. -/
theorem TableInv.lookup {t : ArpTable} (h : TableInv t) {b : Nat} (hb : b < arpTableSize)
    (hne : (t.buckets b).ip ≠ arpIpEmpty) : arpLookup t (t.buckets b).ip = some b :=
  h.found b hb hne

/-- A pending address is not `ARP_IP_EMPTY`. -/
theorem TableInv.pending_ne {t : ArpTable} (h : TableInv t) {ip : UInt32} (hp : Pending t ip) :
    ip ≠ arpIpEmpty := by
  obtain ⟨b, hb, hpend⟩ := hp
  obtain ⟨hip, hlt⟩ := arpLookup_ip hb
  intro h0
  rw [h.idle b hlt (hip.trans h0)] at hpend
  cases hpend

/-! ## Writing one entry

`arp_insert` and `arp_insert_pending` write the bucket of `ip`, with `e.ip =
ip`. What follows holds for both. -/

section write

variable {t : ArpTable} {ip : UInt32} {b : Nat} {e : ArpTableEntry}

theorem keys_set (he : e.ip = ip) : (t.set b e).keys = putKey t.keys b ip := by
  funext j
  unfold keys putKey ArpTable.set
  dsimp only
  split
  · exact he
  · rfl

theorem arpLookup_set (hb : arpBucket t ip = some b) (he : e.ip = ip) :
    arpLookup (t.set b e) ip = some b := by
  unfold arpLookup
  rw [keys_set he]
  exact probe_put hb

theorem arpLookup_set_ne {ip' : UInt32} {b' : Nat} (hb : arpBucket t ip = some b) (he : e.ip = ip)
    (hne : ip' ≠ arpIpEmpty) (hip : ip' ≠ ip) (h : arpLookup t ip' = some b') :
    arpLookup (t.set b e) ip' = some b' := by
  unfold arpLookup
  rw [keys_set he]
  exact probe_put_ne h hne (fun h => hip h.symm) (place_some hb).1

theorem TableInv.set (h : TableInv t) (hb : arpBucket t ip = some b) (he : e.ip = ip)
    (hne : ip ≠ arpIpEmpty) : TableInv (t.set b e) := by
  refine ⟨?_, ?_⟩
  · rw [keys_set he]
    exact h.found.put hb
  · intro j hj hempty
    by_cases hjb : j = b
    · rw [hjb, set_same] at hempty
      exact absurd (he.symm.trans hempty) hne
    · rw [set_ne t e hjb] at hempty ⊢
      exact h.idle j hj hempty

/-- An address other than the one written is found where it was, if at all. -/
theorem TableInv.lookup_set_iff (h : TableInv t) {ip' : UInt32} {b' : Nat}
    (hb : arpBucket t ip = some b) (he : e.ip = ip) (hne : ip' ≠ arpIpEmpty) (hip : ip' ≠ ip) :
    arpLookup (t.set b e) ip' = some b' ↔ arpLookup t ip' = some b' := by
  refine ⟨fun hl => ?_, arpLookup_set_ne hb he hne hip⟩
  obtain ⟨hkey, hlt⟩ := arpLookup_ip hl
  have hbb : b' ≠ b := by
    intro heq
    rw [heq, set_same] at hkey
    exact hip (hkey.symm.trans he)
  rw [set_ne t e hbb] at hkey
  have := h.lookup hlt (by rw [hkey]; exact hne)
  rw [hkey] at this
  exact this

/-- Two addresses in the table have two buckets. -/
theorem arpLookup_bucket_ne {ip' : UInt32} {b' : Nat} (hip : ip' ≠ ip)
    (h' : arpLookup t ip' = some b') (h : arpLookup t ip = some b) : b' ≠ b := by
  intro heq
  rw [heq] at h'
  exact hip ((arpLookup_ip h').1.symm.trans (arpLookup_ip h).1)

theorem set_of_lookup {ip' : UInt32} {b' : Nat} (hb : arpBucket t ip = some b) (he : e.ip = ip)
    (hne : ip' ≠ arpIpEmpty) (hip : ip' ≠ ip) (hl : arpLookup t ip' = some b') :
    (t.set b e).buckets b' = t.buckets b' :=
  set_ne t e (arpLookup_bucket_ne hip (arpLookup_set_ne hb he hne hip hl) (arpLookup_set hb he))

/-- Another address keeps its state. -/
theorem TableInv.pending_set_iff (h : TableInv t) {ip' : UInt32} (hb : arpBucket t ip = some b)
    (he : e.ip = ip) (hne : ip' ≠ arpIpEmpty) (hip : ip' ≠ ip) :
    Pending (t.set b e) ip' ↔ Pending t ip' := by
  constructor
  · rintro ⟨b', hl, hp⟩
    rw [h.lookup_set_iff hb he hne hip] at hl
    rw [set_of_lookup hb he hne hip hl] at hp
    exact ⟨b', hl, hp⟩
  · rintro ⟨b', hl, hp⟩
    refine ⟨b', (h.lookup_set_iff hb he hne hip).mpr hl, ?_⟩
    rw [set_of_lookup hb he hne hip hl]
    exact hp

theorem TableInv.resolved_set_iff (h : TableInv t) {ip' : UInt32} (hb : arpBucket t ip = some b)
    (he : e.ip = ip) (hne : ip' ≠ arpIpEmpty) (hip : ip' ≠ ip) :
    Resolved (t.set b e) ip' ↔ Resolved t ip' := by
  constructor
  · rintro ⟨b', hl, hp⟩
    rw [h.lookup_set_iff hb he hne hip] at hl
    rw [set_of_lookup hb he hne hip hl] at hp
    exact ⟨b', hl, hp⟩
  · rintro ⟨b', hl, hp⟩
    refine ⟨b', (h.lookup_set_iff hb he hne hip).mpr hl, ?_⟩
    rw [set_of_lookup hb he hne hip hl]
    exact hp

/-- An address without a bucket stays without one. -/
theorem arpBucket_none_set {ip' : UInt32} (hb : arpBucket t ip = some b) (he : e.ip = ip)
    (h : arpBucket t ip' = none) : arpBucket (t.set b e) ip' = none := by
  unfold arpBucket
  rw [keys_set he]
  exact place_none_put h (place_some hb).1

end write

/-- An address that is found has its bucket. -/
theorem arpBucket_of_lookup {t : ArpTable} {ip : UInt32} {b : Nat} (h : arpLookup t ip = some b) :
    arpBucket t ip = some b :=
  place_of_probe h

theorem not_pending_of_resolved {t : ArpTable} {ip : UInt32} (h : Resolved t ip) :
    ¬ Pending t ip := by
  obtain ⟨b, hb, hr⟩ := h
  rintro ⟨b', hb', hp⟩
  rw [hb] at hb'
  cases hb'
  rw [hr] at hp
  cases hp

/-- `arp_lookup` of `ARP_IP_EMPTY` fails only where `arp_insert` would. -/
theorem arpBucket_empty_none {t : ArpTable} (h : arpLookup t arpIpEmpty = none) :
    arpBucket t arpIpEmpty = none :=
  place_empty_none h

/-- An address that is not found and has a bucket is not `ARP_IP_EMPTY`. -/
theorem unknown_ne {t : ArpTable} {ip : UInt32} {b : Nat} (hl : arpLookup t ip = none)
    (hb : arpBucket t ip = some b) : ip ≠ arpIpEmpty := by
  intro h0
  rw [h0] at hl hb
  rw [arpBucket_empty_none hl] at hb
  cases hb

/-- Neither is one that is not resolved and has a bucket. -/
theorem TableInv.unresolved_ne {t : ArpTable} (h : TableInv t) {ip : UInt32} {b : Nat}
    (hr : ¬ Resolved t ip) (hb : arpBucket t ip = some b) : ip ≠ arpIpEmpty := by
  cases hl : arpLookup t ip with
  | none => exact unknown_ne hl hb
  | some b' =>
    obtain ⟨hip, hlt⟩ := arpLookup_ip hl
    intro h0
    exact hr ⟨b', hl, h.idle b' hlt (hip.trans h0)⟩

/-- An address in the table is pending or resolved. -/
theorem pending_or_resolved {t : ArpTable} {ip : UInt32} (h : arpLookup t ip ≠ none) :
    Pending t ip ∨ Resolved t ip := by
  obtain ⟨b, hb⟩ := Option.ne_none_iff_exists'.mp h
  cases hp : (t.buckets b).pending with
  | true => exact .inl ⟨b, hb, hp⟩
  | false => exact .inr ⟨b, hb, hp⟩

/-- An address in the table stays in it. -/
theorem known_set {t : ArpTable} {ip ip' : UInt32} {b : Nat} {e : ArpTableEntry}
    (hb : arpBucket t ip = some b) (he : e.ip = ip) (hne : ip' ≠ arpIpEmpty)
    (h : arpLookup t ip' ≠ none) : arpLookup (t.set b e) ip' ≠ none := by
  by_cases hip : ip' = ip
  · rw [hip, arpLookup_set hb he]
    exact Option.some_ne_none b
  · obtain ⟨b', hb'⟩ := Option.ne_none_iff_exists'.mp h
    rw [arpLookup_set_ne hb he hne hip hb']
    exact Option.some_ne_none b'

/-! ## Changes of a timer pointer only -/

/-- The tables differ in `mac` and `te` at most. -/
def SameStatus (t t' : ArpTable) : Prop :=
  ∀ b, (t'.buckets b).ip = (t.buckets b).ip ∧ (t'.buckets b).pending = (t.buckets b).pending

theorem sameStatus_te (t : ArpTable) (b : Nat) (te : Option Nat) :
    SameStatus t (t.set b { t.buckets b with te }) := by
  intro b'
  by_cases hbb : b' = b
  · rw [hbb, ArpTable.set_same]
    exact ⟨rfl, rfl⟩
  · rw [ArpTable.set_ne _ _ hbb]
    exact ⟨rfl, rfl⟩

theorem SameStatus.keys {t t' : ArpTable} (h : SameStatus t t') : t'.keys = t.keys :=
  funext fun b => (h b).1

theorem SameStatus.lookup {t t' : ArpTable} (h : SameStatus t t') (ip : UInt32) :
    arpLookup t' ip = arpLookup t ip := by
  unfold arpLookup
  rw [h.keys]

theorem SameStatus.resolved {t t' : ArpTable} (h : SameStatus t t') {ip : UInt32}
    (hr : Resolved t' ip) : Resolved t ip := by
  obtain ⟨b, hb, hp⟩ := hr
  rw [h.lookup] at hb
  rw [(h b).2] at hp
  exact ⟨b, hb, hp⟩

theorem SameStatus.inv {t t' : ArpTable} (h : SameStatus t t') (ht : TableInv t) : TableInv t' := by
  refine ⟨?_, fun b hb hempty => ?_⟩
  · rw [h.keys]
    exact ht.found
  · rw [(h b).1] at hempty
    rw [(h b).2]
    exact ht.idle b hb hempty

/-- The table starts empty. -/
theorem arpTableInit_inv (mem : ArpTable) : TableInv (arpTableInit mem) :=
  ⟨fun _ _ hne => absurd rfl hne, fun _ _ _ => rfl⟩

theorem arpLookup_init (mem : ArpTable) {ip : UInt32} (hne : ip ≠ arpIpEmpty) :
    arpLookup (arpTableInit mem) ip = none := by
  cases h : arpLookup (arpTableInit mem) ip with
  | none => rfl
  | some b => exact absurd (arpLookup_ip h).1.symm hne

end Chamelio.Arp
