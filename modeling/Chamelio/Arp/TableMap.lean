import Chamelio.Arp.Table
import Chamelio.Lib.ProbeMap
import Chamelio.Lib.Run

/-!
# The ARP table is a finite map

`arp_insert`, `arp_insert_pending` and `arp_lookup` in any order, over any
addresses other than `ARP_IP_EMPTY`, from a table fresh from
`arp_table_init`. The map the table stands for is read off the calls and what
they returned (`arpMap`): the addresses whose insertion did not return `NULL`,
each with the address of its last `arp_insert` and the flag of its last
insertion of either kind.

Mirroring notes: `arp_insert_pending` writes no MAC, so an address inserted
only by it has in its bucket what `arp_table_init` left there. `ArpBinding`
says nothing about that (`mac` is `none`).
-/

namespace Chamelio.Arp

open Chamelio.Lib ArpTable

/-! ## Calls -/

/-- A call of the ARP table. -/
inductive ArpCall
  | insert (ip : UInt32) (mac : EthAddr)
  | insertPending (ip : UInt32)
  | lookup (ip : UInt32)
  deriving DecidableEq

def ArpCall.ip : ArpCall → UInt32
  | .insert ip _ => ip
  | .insertPending ip => ip
  | .lookup ip => ip

/-- A call that returned: what it was, and its result, `none` for `NULL`. -/
structure ArpReturn where
  call : ArpCall
  ret : Option Nat

/-- One call. -/
def arpStep (t : ArpTable) (c : ArpCall) : ArpTable × ArpReturn :=
  match c with
  | .insert ip mac => ((arpInsert t ip mac).1, ⟨c, (arpInsert t ip mac).2⟩)
  | .insertPending ip => ((arpInsertPending t ip).1, ⟨c, (arpInsertPending t ip).2⟩)
  | .lookup ip => (t, ⟨c, arpLookup t ip⟩)

/-! ## The map the calls describe -/

/-- What an address is bound to: the MAC of its last `arp_insert`, if there was
one, and whether its last insertion was pending. -/
structure ArpBinding where
  mac : Option EthAddr
  pending : Bool

/-- What a call that returned does to the map. -/
def ArpReturn.apply (m : UInt32 → Option ArpBinding) (r : ArpReturn) : UInt32 → Option ArpBinding :=
  match r.ret, r.call with
  | some _, .insert ip mac => Function.update m ip (some ⟨some mac, false⟩)
  | some _, .insertPending ip => Function.update m ip (some ⟨(m ip).bind ArpBinding.mac, true⟩)
  | _, _ => m

/-- The map after a history of calls. -/
def arpMap (log : List ArpReturn) : UInt32 → Option ArpBinding := log.foldl ArpReturn.apply fun _ => none

/-- What the table has under `ip`, `none` where `arp_lookup` finds nothing. -/
def arpEntry (t : ArpTable) (ip : UInt32) : Option ArpTableEntry := (arpLookup t ip).map t.buckets

/-- The table has under an address what the map binds it to. -/
def Stands : Option ArpTableEntry → Option ArpBinding → Prop
  | none, none => True
  | some e, some x => e.pending = x.pending ∧ ∀ mac, x.mac = some mac → e.mac = mac
  | _, _ => False

/-- No bucket is empty. -/
def ArpTable.Full (t : ArpTable) : Prop := ∀ b, b < arpTableSize → (t.buckets b).ip ≠ arpIpEmpty

/-! ## One call -/

theorem arpSlot_eq (ip : UInt32) (i : Nat) : arpSlot ip i = (ip.toNat + i) % arpTableSize := by
  unfold arpSlot hashIp arpTableMask arpTableSize
  rw [UInt32.toNat_and, UInt32.toNat_add, UInt32.toNat_and,
    show (63 : UInt32).toNat = 2 ^ 6 - 1 from rfl, Nat.and_two_pow_sub_one_eq_mod,
    Nat.and_two_pow_sub_one_eq_mod, UInt32.toNat_ofNat']
  omega

theorem arpSlot_cycle : Cycle arpSlot arpTableSize := Cycle.linear arpSlot_eq (by decide)

section call

variable {t : ArpTable} {ip ip' : UInt32} {b : Nat} {e : ArpTableEntry}

/-- Where an address is found is where it stands. -/
theorem TableInv.lookup_iff (h : TableInv t) (hip : ip ≠ arpIpEmpty) :
    arpLookup t ip = some b ↔ b < arpTableSize ∧ (t.buckets b).ip = ip :=
  h.found.found_iff arpSlot_cycle hip

/-- **An insertion fails exactly for a new address in a full table.** -/
theorem TableInv.bucket_none_iff (h : TableInv t) (hip : ip ≠ arpIpEmpty) :
    arpBucket t ip = none ↔ arpLookup t ip = none ∧ t.Full :=
  h.found.place_none_iff arpSlot_cycle hip

theorem arpEntry_set (hb : arpBucket t ip = some b) (he : e.ip = ip) :
    arpEntry (t.set b e) ip = some e := by
  unfold arpEntry
  rw [arpLookup_set hb he, Option.map_some, set_same]

/-- **Writing the bucket of one address leaves every other entry.** -/
theorem TableInv.entry_set_ne (h : TableInv t) (hb : arpBucket t ip = some b) (he : e.ip = ip)
    (hip' : ip' ≠ arpIpEmpty) (hne : ip' ≠ ip) :
    arpLookup (t.set b e) ip' = arpLookup t ip' ∧ arpEntry (t.set b e) ip' = arpEntry t ip' := by
  have hl : arpLookup (t.set b e) ip' = arpLookup t ip' := by
    unfold arpLookup
    rw [keys_set he]
    exact h.found.probe_put arpSlot_cycle hip' hne hb
  refine ⟨hl, ?_⟩
  unfold arpEntry
  rw [hl]
  cases hf : arpLookup t ip' with
  | none => rfl
  | some b' => exact congrArg some (set_of_lookup hb he hip' hne hf)

/-- What a call does to the table: nothing, or it writes the bucket of its
address, and then it returns that bucket. -/
inductive ArpEffect (t : ArpTable) (c : ArpCall) : ArpTable → ArpReturn → Prop
  | lookup {ip : UInt32} (hc : c = .lookup ip) : ArpEffect t c t ⟨c, arpLookup t ip⟩
  | full (hb : arpBucket t c.ip = none) : ArpEffect t c t ⟨c, none⟩
  | insert {ip : UInt32} {mac : EthAddr} {b : Nat} (hc : c = .insert ip mac)
    (hb : arpBucket t ip = some b) :
    ArpEffect t c (t.set b { t.buckets b with ip, pending := false, mac }) ⟨c, some b⟩
  | pending {ip : UInt32} {b : Nat} (hc : c = .insertPending ip)
    (hb : arpBucket t ip = some b) :
    ArpEffect t c (t.set b { t.buckets b with ip, pending := true }) ⟨c, some b⟩

theorem arpStep_effect (t : ArpTable) (c : ArpCall) :
    ArpEffect t c (arpStep t c).1 (arpStep t c).2 := by
  cases c with
  | lookup ip => exact .lookup rfl
  | insert ip mac =>
    show ArpEffect t _ (arpInsert t ip mac).1 ⟨_, (arpInsert t ip mac).2⟩
    unfold arpInsert
    cases hb : arpBucket t ip with
    | none => exact .full (c := .insert ip mac) hb
    | some b => exact .insert (c := .insert ip mac) rfl hb
  | insertPending ip =>
    show ArpEffect t _ (arpInsertPending t ip).1 ⟨_, (arpInsertPending t ip).2⟩
    unfold arpInsertPending
    cases hb : arpBucket t ip with
    | none => exact .full (c := .insertPending ip) hb
    | some b => exact .pending (c := .insertPending ip) rfl hb

/-- A bucket that is given to an address held its entry before, if it had one. -/
theorem entry_of_bucket (hb : arpBucket t ip = some b) {e : ArpTableEntry}
    (he : arpEntry t ip = some e) : t.buckets b = e := by
  unfold arpEntry at he
  cases hl : arpLookup t ip with
  | none =>
    rw [hl] at he
    cases he
  | some b' =>
    rw [hl] at he
    rw [arpBucket_of_lookup hl] at hb
    cases hb
    exact Option.some.inj he

end call

/-! ## Runs -/

/-- The calls are made for addresses other than `ARP_IP_EMPTY`. -/
def ArpCallOk (_ : ArpTable) (c : ArpCall) : Prop := c.ip ≠ arpIpEmpty

instance (t : ArpTable) (c : ArpCall) : Decidable (ArpCallOk t c) :=
  inferInstanceAs (Decidable (c.ip ≠ arpIpEmpty))

/-- What holds after any calls: the table is well formed and stands for the
map. -/
structure MapInv (log : List ArpReturn) (t : ArpTable) : Prop where
  table : TableInv t
  stands : ∀ ip, ip ≠ arpIpEmpty → Stands (arpEntry t ip) (arpMap log ip)

theorem arpMap_snoc (log : List ArpReturn) (r : ArpReturn) :
    arpMap (log ++ [r]) = r.apply (arpMap log) := by
  unfold arpMap
  rw [List.foldl_append]
  rfl

theorem mapInv_init (mem : ArpTable) : MapInv [] (arpTableInit mem) := by
  refine ⟨arpTableInit_inv mem, fun ip hip => ?_⟩
  unfold arpEntry
  rw [arpLookup_init mem hip]
  exact trivial

section map

variable {m : UInt32 → Option ArpBinding} {ip : UInt32} {b : Nat}

theorem apply_lookup {ret : Option Nat} : (ArpReturn.mk (.lookup ip) ret).apply m = m := by
  cases ret <;> rfl

theorem apply_insert {mac : EthAddr} : (ArpReturn.mk (.insert ip mac) (some b)).apply m =
    Function.update m ip (some ⟨some mac, false⟩) := rfl

theorem apply_pending : (ArpReturn.mk (.insertPending ip) (some b)).apply m =
    Function.update m ip (some ⟨(m ip).bind ArpBinding.mac, true⟩) := rfl

/-- A pending insertion keeps the MAC the entry had. -/
theorem stands_pending {t : ArpTable} (hb : arpBucket t ip = some b)
    (h : Stands (arpEntry t ip) (m ip)) :
    Stands (some { t.buckets b with ip, pending := true })
      (some ⟨(m ip).bind ArpBinding.mac, true⟩) := by
  refine ⟨rfl, fun mac hmac => ?_⟩
  cases hm : m ip with
  | none =>
    rw [hm] at hmac
    cases hmac
  | some x =>
    rw [hm] at hmac h
    cases he : arpEntry t ip with
    | none =>
      rw [he] at h
      exact absurd h id
    | some e =>
      rw [he] at h
      dsimp only
      rw [entry_of_bucket hb he]
      exact h.2 mac hmac

end map

/-- **One call keeps the table and its map together.** -/
theorem MapInv.step {log : List ArpReturn} {t : ArpTable} (h : MapInv log t) {c : ArpCall}
    (hc : ArpCallOk t c) : MapInv (log ++ [(arpStep t c).2]) (arpStep t c).1 := by
  have heff := arpStep_effect t c
  generalize (arpStep t c).1 = t' at heff ⊢
  generalize (arpStep t c).2 = r at heff ⊢
  cases heff with
  | lookup hl =>
    refine ⟨h.table, ?_⟩
    rw [arpMap_snoc, hl, apply_lookup]
    exact h.stands
  | full hb =>
    refine ⟨h.table, ?_⟩
    rw [arpMap_snoc]
    exact h.stands
  | @insert ip mac b hl hb =>
    subst hl
    refine ⟨h.table.set hb rfl hc, fun ip' hip' => ?_⟩
    rw [arpMap_snoc, apply_insert]
    by_cases heq : ip' = ip
    · rw [heq, arpEntry_set hb rfl, Function.update_self]
      exact ⟨rfl, fun mac hmac => Option.some.inj hmac⟩
    · rw [(h.table.entry_set_ne hb rfl hip' heq).2, Function.update_of_ne heq]
      exact h.stands ip' hip'
  | @pending ip b hl hb =>
    subst hl
    refine ⟨h.table.set hb rfl hc, fun ip' hip' => ?_⟩
    rw [arpMap_snoc, apply_pending]
    by_cases heq : ip' = ip
    · rw [heq, arpEntry_set hb rfl, Function.update_self]
      exact stands_pending hb (h.stands ip hc)
    · rw [(h.table.entry_set_ne hb rfl hip' heq).2, Function.update_of_ne heq]
      exact h.stands ip' hip'

theorem arpRun_map {mem : ArpTable} {log : List ArpReturn} {t : ArpTable}
    (hr : Run ArpCallOk arpStep (arpTableInit mem) log t) : MapInv log t :=
  hr.inv (I := MapInv) (mapInv_init mem) fun _ _ _ h hc => h.step hc

/-! ## The table and the map -/

section

variable {log : List ArpReturn} {t : ArpTable} {ip : UInt32}

/-- **An address is found exactly if the map has it.** -/
theorem MapInv.lookup_none_iff (h : MapInv log t) (hip : ip ≠ arpIpEmpty) :
    arpLookup t ip = none ↔ arpMap log ip = none := by
  have hst := h.stands ip hip
  unfold arpEntry at hst
  cases hl : arpLookup t ip with
  | none =>
    rw [hl] at hst
    cases hm : arpMap log ip with
    | none => exact ⟨fun _ => rfl, fun _ => rfl⟩
    | some x =>
      rw [hm] at hst
      exact absurd hst id
  | some b =>
    rw [hl] at hst
    cases hm : arpMap log ip with
    | none =>
      rw [hm] at hst
      exact absurd hst id
    | some x => exact ⟨fun h => (by cases h), fun h => (by cases h)⟩

theorem arpEntry_ip {e : ArpTableEntry} (he : arpEntry t ip = some e) : e.ip = ip := by
  obtain ⟨b, hb, rfl⟩ := Option.map_eq_some_iff.mp he
  exact (arpLookup_ip hb).1

/-- A call leaves the entries of other addresses. -/
theorem MapInv.step_ne (h : MapInv log t) {c : ArpCall} (hc : c.ip ≠ arpIpEmpty)
    (hip : ip ≠ arpIpEmpty) (hne : ip ≠ c.ip) :
    arpLookup (arpStep t c).1 ip = arpLookup t ip ∧ arpEntry (arpStep t c).1 ip = arpEntry t ip := by
  have heff := arpStep_effect t c
  generalize (arpStep t c).1 = t' at heff ⊢
  generalize (arpStep t c).2 = r at heff
  cases heff with
  | lookup | full => exact ⟨rfl, rfl⟩
  | insert hl hb | pending hl hb =>
    subst hl
    exact h.table.entry_set_ne hb rfl hip hne

/-- A call that returns `NULL` is for an address the map does not have, and
changes nothing. -/
theorem MapInv.step_none (h : MapInv log t) {c : ArpCall} (hc : c.ip ≠ arpIpEmpty)
    (hret : (arpStep t c).2.ret = none) : (arpStep t c).1 = t ∧ arpMap log c.ip = none := by
  have heff := arpStep_effect t c
  generalize (arpStep t c).1 = t' at heff ⊢
  generalize (arpStep t c).2 = r at heff hret
  cases heff with
  | lookup hl =>
    subst hl
    exact ⟨rfl, (h.lookup_none_iff hc).mp hret⟩
  | full hb => exact ⟨rfl, (h.lookup_none_iff hc).mp ((h.table.bucket_none_iff hc).mp hb).1⟩
  | insert | pending => cases hret

/-- An insertion returns `NULL` exactly for a new address in a full table. -/
theorem MapInv.insert_none_iff (h : MapInv log t) (hip : ip ≠ arpIpEmpty) :
    arpBucket t ip = none ↔ arpMap log ip = none ∧ t.Full := by
  rw [h.table.bucket_none_iff hip, h.lookup_none_iff hip]

theorem arpInsert_none {mac : EthAddr} : (arpInsert t ip mac).2 = none ↔ arpBucket t ip = none := by
  unfold arpInsert
  cases arpBucket t ip <;> simp

theorem arpInsertPending_none : (arpInsertPending t ip).2 = none ↔ arpBucket t ip = none := by
  unfold arpInsertPending
  cases arpBucket t ip <;> simp

/-- The addresses of the map are those in the buckets. -/
theorem MapInv.domain (h : MapInv log t) :
    {ip | ip ≠ arpIpEmpty ∧ arpMap log ip ≠ none} = ↑(heldKeys t.keys arpIpEmpty arpTableSize) := by
  ext ip
  rw [Set.mem_ofPred_eq, Finset.mem_coe, mem_heldKeys]
  refine and_congr_right fun hip => ?_
  rw [ne_eq, ← h.lookup_none_iff hip]
  constructor
  · intro hl
    obtain ⟨b, hb⟩ := Option.ne_none_iff_exists'.mp hl
    exact ⟨b, (h.table.lookup_iff hip).mp hb⟩
  · intro ⟨b, hb⟩
    rw [(h.table.lookup_iff hip).mpr hb]
    exact Option.some_ne_none b

theorem MapInv.full_iff (h : MapInv log t) :
    t.Full ↔ {ip | ip ≠ arpIpEmpty ∧ arpMap log ip ≠ none}.ncard = arpTableSize := by
  rw [h.domain, Set.ncard_coe_finset]
  exact h.table.found.full_iff

end

/-- **The ARP table refines a finite map.** After any calls over addresses
other than `ARP_IP_EMPTY`, with any collisions:
* `arp_lookup` of an address finds an entry for it if an insertion of it
  succeeded, with the MAC of its last `arp_insert` and the flag of its last
  insertion, and returns `NULL` otherwise;
* no address stands in two buckets;
* a further call leaves every other address its bucket and its entry;
* a call that returns `NULL` is for an address that is not in the map, and
  changes nothing;
* an insertion returns `NULL` exactly for an address that is not in the map
  when all buckets are taken;
* all buckets are taken exactly when the map has `ARP_TABLE_SIZE` addresses. -/
theorem arp_table_refines_map {mem : ArpTable} {log : List ArpReturn} {t : ArpTable}
    (hr : Run ArpCallOk arpStep (arpTableInit mem) log t) :
    (∀ ip, ip ≠ arpIpEmpty → Stands (arpEntry t ip) (arpMap log ip) ∧
      ∀ e, arpEntry t ip = some e → e.ip = ip) ∧
    (∀ b b', b < arpTableSize → b' < arpTableSize → (t.buckets b).ip ≠ arpIpEmpty →
      (t.buckets b).ip = (t.buckets b').ip → b = b') ∧
    (∀ c, c.ip ≠ arpIpEmpty → ∀ ip, ip ≠ arpIpEmpty → ip ≠ c.ip →
      arpLookup (arpStep t c).1 ip = arpLookup t ip ∧
      arpEntry (arpStep t c).1 ip = arpEntry t ip) ∧
    (∀ c, c.ip ≠ arpIpEmpty → (arpStep t c).2.ret = none →
      (arpStep t c).1 = t ∧ arpMap log c.ip = none) ∧
    (∀ ip mac, ip ≠ arpIpEmpty →
      ((arpInsert t ip mac).2 = none ↔ arpMap log ip = none ∧ t.Full) ∧
      ((arpInsertPending t ip).2 = none ↔ arpMap log ip = none ∧ t.Full)) ∧
    (t.Full ↔ {ip | ip ≠ arpIpEmpty ∧ arpMap log ip ≠ none}.ncard = arpTableSize) := by
  have h := arpRun_map hr
  refine ⟨fun ip hip => ⟨h.stands ip hip, fun e => arpEntry_ip⟩, ?_, ?_, ?_, ?_, h.full_iff⟩
  · intro b b' hb hb' hne heq
    exact h.table.found.bucket_inj hb hb' hne heq
  · intro c hc ip hip hne
    exact h.step_ne hc hip hne
  · intro c hc hret
    exact h.step_none hc hret
  · intro ip mac hip
    exact ⟨arpInsert_none.trans (h.insert_none_iff hip),
      arpInsertPending_none.trans (h.insert_none_iff hip)⟩

/-- A table in zeroed memory. -/
def zeroTable : ArpTable where
  buckets := fun _ => { ip := 0, pending := false, mac := ⟨0, 0, 0, 0, 0, 0⟩, te := none }

/-- Two addresses that collide, the first inserted again while the second waits. -/
theorem arp_table_refines_map_collision :
    ∃ log t, Run ArpCallOk arpStep (arpTableInit zeroTable) log t ∧
      (arpMap log 1).isSome = true ∧ (arpMap log 65).isSome = true ∧
      Stands (arpEntry t 1) (arpMap log 1) ∧ Stands (arpEntry t 65) (arpMap log 65) := by
  let calls := [ArpCall.insert 1 ⟨0, 0, 0, 0, 0, 1⟩, .insertPending 65, .insert 1 ⟨0, 0, 0, 0, 0, 2⟩]
  have hrun := Run.execOk calls (Run.nil : Run ArpCallOk arpStep (arpTableInit zeroTable) [] _)
    (by simp [calls, allOk, ArpCallOk, ArpCall.ip, arpIpEmpty])
  have h := (arp_table_refines_map hrun).1
  exact ⟨_, _, hrun, rfl, rfl, (h 1 (by decide)).1, (h 65 (by decide)).1⟩

end Chamelio.Arp
