import Chamelio.Fast.Infra
import Chamelio.Fast.RxReady
import Chamelio.Netvirt.ParserSound

/-!
# Virtual networks between hosts (`fast/infra.c`, `guestif.c`, `fast/controlif.c`)

All hosts load the same file. Its rows say which guest of which host is in
which network (`gre_key`) and under which address. A host tells its cores the
network and the address of each guest it accepts; a core puts the packets of a
guest on the wire under the guest's key and, of a frame that arrives, finds
the guest with the key and the inner destination of the frame.

The steps of the system are these calls on any core of any host, in any order:
a guest is accepted, a guest sends what it likes, a packet that waited for an
ARP reply is tried again or dropped, the ARP table and the queue to the
control path change, a frame arrives. Frames are not lost from the wire, so
they may arrive late, in any order, more than once or never.

`tunnel_isolated`: whatever the guests put into their packets, a guest only
receives packets that guests of its own network sent to its address, as they
sent them; and no frame on the wire is for a guest its host does not know.

Mirroring notes: a core is identified by a number, and the cores of one host
share its address. The message that tells a core about a guest carries what
`netvirt_table_get` found, which never changes, so `accept` is the lookup and
`handle_new_guest` in one. A frame arrives where the outer header says. The
NIC completes the checksums, so a frame may arrive with other bytes in the
checksum fields. What is done with a frame for a guest that is not accepted
is in `Fast.RxDispatch`; here it goes nowhere.
-/

namespace Chamelio.Netvirt

open Chamelio.Arp Chamelio.Control Chamelio.Fast Chamelio.Lib Chamelio.Pkt

/-! ## The system -/

/-- A packet that waits for the address of its host: `QUEUE_MBUF_PENDING`. -/
structure HeldMbuf where
  gid : Nat
  mb : TxMbuf
  pktLen : UInt64

structure TunnelCore where
  tx : TxCore
  rx : RxCore
  /-- `ctx->guests`; `none` for a guest that was not accepted. -/
  guests : Nat → Option GuestNet
  held : List HeldMbuf

/-- A frame on the wire. -/
structure WireFrame where
  bytes : Nat → UInt8
  len : UInt16

structure TunnelSys where
  cores : Nat → TunnelCore
  wire : List WireFrame

inductive TunnelAct
  | accept (core : Nat) (id : UInt8)
  | tx (core gid : Nat) (mb : TxMbuf) (pktLen : UInt64)
  | retry (core k : Nat)
  | drop (core k : Nat)
  | arp (core : Nat) (arpTable : ArpTable) (fcq : Fifo FcMsg)
  | rx (core : Nat) (f : WireFrame)

/-- What a step shows to the guests. -/
inductive TunnelObs
  | quiet
  | sent (core gid : Nat) (p : Nat → UInt8) (pktLen : UInt64)
  | received (core gid : Nat) (f : WireFrame)

namespace TunnelSys

def setCore (s : TunnelSys) (i : Nat) (c : TunnelCore) : TunnelSys :=
  { s with cores := fun j => if j = i then c else s.cores j }

@[simp] theorem setCore_self (s : TunnelSys) (i : Nat) (c : TunnelCore) :
    (s.setCore i c).cores i = c := if_pos rfl

theorem setCore_ne {s : TunnelSys} {i j : Nat} (c : TunnelCore) (h : j ≠ i) :
    (s.setCore i c).cores j = s.cores j := if_neg h

end TunnelSys

/-- What `guestif` finds for guest `id` of host `ip`. -/
def guestConfig (ts : NetvirtTables) (ip : UInt32) (id : UInt8) : Option GuestNet :=
  (netvirtTableGet ts.gidTable (UInt32.ofNat id.toNat) ip).map fun e => ⟨id, e.innerIp, e.greKey⟩

/-- A guest is accepted, and `handle_new_guest` stores its configuration. -/
def acceptGuest (ts : NetvirtTables) (c : TunnelCore) (id : UInt8) : TunnelCore :=
  match guestConfig ts c.tx.ip id with
  | none => c
  | some g =>
    if chamelioMaxGuests ≤ id.toNat then c
    else { c with guests := fun j => if j = id.toNat then some g else c.guests j }

/-- `infra_tx` for a guest's packet, and what its callers do with the packet. -/
def tunnelTx (phdr : PhdrCksum) (s : TunnelSys) (i gid : Nat) (g : GuestNet) (mb : TxMbuf)
    (pktLen : UInt64) : TunnelSys :=
  let r := infraTx phdr (s.cores i).tx g mb pktLen
  let c := { s.cores i with tx := r.1 }
  match r.2.2 with
  | .ok => { s.setCore i c with wire := s.wire ++ [⟨r.2.1.bytes, r.2.1.dataLen⟩] }
  | .mbuf => s.setCore i { c with held := c.held ++ [⟨gid, r.2.1, pktLen⟩] }
  | .err => s.setCore i c

def tunnelStep (phdr : PhdrCksum) (ts : NetvirtTables) (s : TunnelSys) :
    TunnelAct → TunnelSys × TunnelObs
  | .accept i id => (s.setCore i (acceptGuest ts (s.cores i) id), .quiet)
  | .tx i gid mb n =>
    match (s.cores i).guests gid with
    | none => (s, .quiet)
    | some g => (tunnelTx phdr s i gid g mb n, .sent i gid mb.bytes n)
  | .retry i k =>
    match (s.cores i).held[k]? with
    | none => (s, .quiet)
    | some h =>
      match (s.cores i).guests h.gid with
      | none => (s, .quiet)
      | some g =>
        let c := { s.cores i with held := (s.cores i).held.eraseIdx k }
        (tunnelTx phdr (s.setCore i c) i h.gid g h.mb h.pktLen, .quiet)
  | .drop i k =>
    (s.setCore i { s.cores i with held := (s.cores i).held.eraseIdx k }, .quiet)
  | .arp i arpTable fcq =>
    (s.setCore i { s.cores i with tx := { (s.cores i).tx with arpTable, fcq } }, .quiet)
  | .rx i f =>
    match infraRx (s.cores i).rx ⟨0, f.bytes⟩ with
    | none => (s, .quiet)
    | some gid =>
      match (s.cores i).guests gid with
      | none => (s, .quiet)
      | some _ => (s, .received i gid f)

/-- The frame as it arrives: the NICs may have written its checksums. -/
structure WireFrame.Arrives (w f : WireFrame) : Prop where
  len : f.len = w.len
  bytes : ∀ i, ¬ GreChksumByte w.bytes i → f.bytes i = w.bytes i

/-- A frame arrives at the host its outer header names. -/
def TunnelOk (s : TunnelSys) : TunnelAct → Prop
  | .rx i f => (∃ w ∈ s.wire, w.Arrives f) ∧ be32 f.bytes 30 = (s.cores i).tx.ip
  | _ => True

/-- Every core is set up for virtual networks with the tables; no guest was
accepted yet. -/
structure TunnelSys.Init (ts : NetvirtTables) (s : TunnelSys) : Prop where
  virtTx : ∀ i, (s.cores i).tx.virtGre = true
  virtRx : ∀ i, (s.cores i).rx.virtGre = true
  innerTx : ∀ i, (s.cores i).tx.innerTable = ts.innerTable
  innerRx : ∀ i, (s.cores i).rx.innerTable = ts.innerTable
  guests : ∀ i gid, (s.cores i).guests gid = none
  held : ∀ i, (s.cores i).held = []
  wire : s.wire = []

/-! ## The file -/

/-- The tables a host has after it read the file. -/
def loadTables (text : Text) : NetvirtTables :=
  (netvirtParser netvirtTablesInit (some text)).2

/-- A file the hosts can use: the parser takes it, no key of it is
`NETVIRT_INVALID`, and a guest of a host is in one network under one address. -/
structure NetvirtFile (text : Text) : Prop where
  parsed : (netvirtParser netvirtTablesInit (some text)).1 = 0
  keyed : ∀ r ∈ readRows text, r.Keyed
  one : ∀ r ∈ readRows text, ∀ r' ∈ readRows text, r.guestId = r'.guestId →
    parseIpv4 r.outerIpStr = parseIpv4 r'.outerIpStr →
    r.greKey = r'.greKey ∧ parseIpv4 r.innerIpStr = parseIpv4 r'.innerIpStr

/-- The guest is in the network, and under the address, that a row gives this
guest of host `ip`. -/
structure GuestOfRow (g : GuestNet) (ip : UInt32) (r : Row) : Prop where
  guestId : r.guestId = UInt32.ofNat g.id.toNat
  outerIp : parseIpv4 r.outerIpStr = ip
  greKey : g.greKey = r.greKey
  innerIp : g.ip = parseIpv4 r.innerIpStr

section file

variable {text : Text} {a b ip : UInt32} {e : NetvirtEntry}

theorem NetvirtFile.live (h : NetvirtFile text) : RowsLive (loadTables text) (readRows text) := by
  have htext : text ≠ [] := by
    intro h0
    have hp := h.parsed
    rw [h0] at hp
    exact absurd hp (by decide)
  rcases netvirtParser_cases htext with ⟨-, herr⟩ | ⟨-, -, hlive⟩
  · rw [h.parsed] at herr
    exact absurd herr (by decide)
  · exact hlive

/-- What the inner table finds is the entry of a row. -/
theorem NetvirtFile.inner_row (h : NetvirtFile text) (ha : a ≠ netvirtInvalid)
    (he : netvirtTableGet (loadTables text).innerTable a b = some e) :
    ∃ r ∈ readRows text, e = r.innerEntry ∧ r.greKey = a ∧ parseIpv4 r.innerIpStr = b := by
  rw [h.live.inner.get a b ha] at he
  obtain ⟨r, hr, rfl⟩ := List.mem_map.mp (lastEntry_mem he)
  obtain ⟨hk, hi⟩ := lastEntry_keys he
  exact ⟨r, hr, rfl, hk, hi⟩

theorem guestId_ne_invalid (id : UInt8) : UInt32.ofNat id.toNat ≠ netvirtInvalid := by
  intro h
  have hid := id.toNat_lt
  have hn := congrArg UInt32.toNat h
  rw [UInt32.toNat_ofNat', show netvirtInvalid.toNat = 4294967295 from rfl] at hn
  omega

/-- **An accepted guest is configured as a row of the file says.** -/
theorem NetvirtFile.guestConfig_row (h : NetvirtFile text) {id : UInt8} {g : GuestNet}
    (hg : guestConfig (loadTables text) ip id = some g) :
    g.id = id ∧ ∃ r ∈ readRows text, GuestOfRow g ip r := by
  obtain ⟨e, he, rfl⟩ := Option.map_eq_some_iff.mp hg
  rw [h.live.gid.get _ _ (guestId_ne_invalid id)] at he
  obtain ⟨r, hr, rfl⟩ := List.mem_map.mp (lastEntry_mem he)
  obtain ⟨hk, hi⟩ := lastEntry_keys he
  exact ⟨rfl, r, hr, hk, hi, rfl, rfl⟩

end file

/-! ## The invariant -/

/-- The frame is the packet `q` of a guest in the network `key`, `n` bytes, and
its outer header names the host of a row of that network with the destination. -/
structure WireFrame.Carries (w : WireFrame) (text : Text) (key : UInt32) (q : Nat → UInt8)
    (n : UInt64) : Prop where
  len : w.len = (n + 42).toUInt16
  ethType : be16 w.bytes 12 = ethTypeIp
  greKey : be32 w.bytes 38 = key
  inner : ∀ i, ¬ ChksumByte (q 51) i → w.bytes (greInnerOff + i) = q (greInnerOff + i)
  row : ∃ e, netvirtTableGet (loadTables text).innerTable key (be32 q 58) = some e ∧
    e.outerIp = be32 w.bytes 30

/-- What a core keeps. -/
structure CoreInv (text : Text) (c : TunnelCore) : Prop where
  virtTx : c.tx.virtGre = true
  virtRx : c.rx.virtGre = true
  innerTx : c.tx.innerTable = (loadTables text).innerTable
  innerRx : c.rx.innerTable = (loadTables text).innerTable
  guests : ∀ gid g, c.guests gid = some g →
    ∃ id : UInt8, gid = id.toNat ∧ guestConfig (loadTables text) c.tx.ip id = some g

/-- **The invariant**: what waits and what is on the wire was sent. -/
structure TunnelInv (text : Text) (log : List TunnelObs) (s : TunnelSys) : Prop where
  cores : ∀ i, CoreInv text (s.cores i)
  held : ∀ i, ∀ h ∈ (s.cores i).held, TunnelObs.sent i h.gid h.mb.bytes h.pktLen ∈ log ∧
    ∃ g, (s.cores i).guests h.gid = some g
  wire : ∀ w ∈ s.wire, ∃ i gid q n g, TunnelObs.sent i gid q n ∈ log ∧
    (s.cores i).guests gid = some g ∧ w.Carries text g.greKey q n

/-- What every step leaves as it is. -/
structure KeepsGuests (s s' : TunnelSys) : Prop where
  ip : ∀ i, (s'.cores i).tx.ip = (s.cores i).tx.ip
  guests : ∀ i gid g, (s.cores i).guests gid = some g → (s'.cores i).guests gid = some g

section steps

variable {text : Text} {log : List TunnelObs} {s s' : TunnelSys} {i gid : Nat}

theorem KeepsGuests.refl (s : TunnelSys) : KeepsGuests s s := ⟨fun _ => rfl, fun _ _ _ h => h⟩

theorem KeepsGuests.trans {s'' : TunnelSys} (h : KeepsGuests s s') (h' : KeepsGuests s' s'') :
    KeepsGuests s s'' :=
  ⟨fun i => (h'.ip i).trans (h.ip i), fun i gid g hg => h'.guests i gid g (h.guests i gid g hg)⟩

/-- One core is changed, its address and its guests are not. -/
theorem KeepsGuests.setCore {c : TunnelCore} (hip : c.tx.ip = (s.cores i).tx.ip)
    (hg : ∀ gid g, (s.cores i).guests gid = some g → c.guests gid = some g) :
    KeepsGuests s (s.setCore i c) := by
  refine ⟨fun j => ?_, fun j gid g h => ?_⟩
  · by_cases hj : j = i
    · rw [hj, TunnelSys.setCore_self]
      exact hip
    · rw [TunnelSys.setCore_ne c hj]
  · by_cases hj : j = i
    · rw [hj] at h ⊢
      rw [TunnelSys.setCore_self]
      exact hg gid g h
    · rw [TunnelSys.setCore_ne c hj]
      exact h

/-- More was sent. -/
theorem TunnelInv.observe (h : TunnelInv text log s) (o : TunnelObs) :
    TunnelInv text (log ++ [o]) s := by
  refine ⟨h.cores, fun i x hx => ?_, fun w hw => ?_⟩
  · obtain ⟨hsent, hg⟩ := h.held i x hx
    exact ⟨List.mem_append_left _ hsent, hg⟩
  · obtain ⟨i, gid, q, n, g, hsent, hg, hc⟩ := h.wire w hw
    exact ⟨i, gid, q, n, g, List.mem_append_left _ hsent, hg, hc⟩

/-- **The frame rule**: a core is changed that keeps its guests, and what waits
there waited before or was sent. -/
theorem TunnelInv.setCore {c : TunnelCore} (h : TunnelInv text log s) (hc : CoreInv text c)
    (hip : c.tx.ip = (s.cores i).tx.ip)
    (hg : ∀ gid g, (s.cores i).guests gid = some g → c.guests gid = some g)
    (hheld : ∀ x ∈ c.held, x ∈ (s.cores i).held ∨
      (TunnelObs.sent i x.gid x.mb.bytes x.pktLen ∈ log ∧ ∃ g, (s.cores i).guests x.gid = some g)) :
    TunnelInv text log (s.setCore i c) ∧ KeepsGuests s (s.setCore i c) := by
  have hk := KeepsGuests.setCore hip hg
  refine ⟨⟨fun j => ?_, fun j x hx => ?_, fun w hw => ?_⟩, hk⟩
  · by_cases hj : j = i
    · rw [hj, TunnelSys.setCore_self]
      exact hc
    · rw [TunnelSys.setCore_ne c hj]
      exact h.cores j
  · have hold : TunnelObs.sent j x.gid x.mb.bytes x.pktLen ∈ log ∧
        ∃ g, (s.cores j).guests x.gid = some g := by
      by_cases hj : j = i
      · rw [hj, TunnelSys.setCore_self] at hx
        rw [hj]
        rcases hheld x hx with hx | hx
        · exact h.held i x hx
        · exact hx
      · rw [TunnelSys.setCore_ne c hj] at hx
        exact h.held j x hx
    obtain ⟨hsent, g, hgx⟩ := hold
    exact ⟨hsent, g, hk.guests j x.gid g hgx⟩
  · obtain ⟨j, gid, q, n, g, hsent, hgj, hcar⟩ := h.wire w hw
    exact ⟨j, gid, q, n, g, hsent, hk.guests j gid g hgj, hcar⟩

/-- What `infra_tx` returns for a core does not touch its guests. -/
theorem CoreInv.tx {c : TunnelCore} {t : TxCore} (h : CoreInv text c) (ht : SameCore c.tx t) :
    CoreInv text { c with tx := t } :=
  ⟨ht.virtGre.trans h.virtTx, h.virtRx, ht.innerTable.trans h.innerTx, h.innerRx,
    fun gid g hg => by
      obtain ⟨id, hid, hcfg⟩ := h.guests gid g hg
      refine ⟨id, hid, ?_⟩
      show guestConfig _ t.ip id = some g
      rw [ht.ip]
      exact hcfg⟩

/-- **One packet**: it is on the wire under the key of its guest, or it waits,
or it is dropped. -/
theorem TunnelInv.tx {g : GuestNet} {mb : TxMbuf} {n : UInt64} (phdr : PhdrCksum)
    (h : TunnelInv text log s)
    (hsent : TunnelObs.sent i gid mb.bytes n ∈ log) (hg : (s.cores i).guests gid = some g) :
    TunnelInv text log (tunnelTx phdr s i gid g mb n) ∧
      KeepsGuests s (tunnelTx phdr s i gid g mb n) := by
  have hsame : SameCore (s.cores i).tx (infraTx phdr (s.cores i).tx g mb n).1 := infraTx_same
  have hci := (h.cores i).tx hsame
  have hmove := h.setCore hci hsame.ip (fun _ _ hg => hg) (fun _ hx => Or.inl hx)
  unfold tunnelTx
  dsimp only
  cases hret : (infraTx phdr (s.cores i).tx g mb n).2.2 with
  | ok =>
    obtain ⟨e, he, henc⟩ := infraTx_ok (h.cores i).virtTx
      (show infraTx phdr (s.cores i).tx g mb n = (_, _, InfraRet.ok) by rw [← hret])
    rw [(h.cores i).innerTx] at he
    dsimp only
    obtain ⟨hinv, hk⟩ := hmove
    refine ⟨⟨hinv.cores, hinv.held, fun w hw => ?_⟩, ⟨hk.ip, hk.guests⟩⟩
    rcases List.mem_append.mp hw with hw | hw
    · exact hinv.wire w hw
    · rw [List.mem_singleton.mp hw]
      refine ⟨i, gid, mb.bytes, n, g, hsent, hk.guests i gid g hg, ?_⟩
      exact ⟨henc.dataLen, henc.ethType, henc.greKey, henc.inner, e, he, henc.outerDst.symm⟩
  | mbuf =>
    dsimp only
    have hkept : (infraTx phdr (s.cores i).tx g mb n).2.1 = mb := infraTx_kept (by rw [hret]; decide)
    refine h.setCore ⟨hci.virtTx, hci.virtRx, hci.innerTx, hci.innerRx, hci.guests⟩ hsame.ip
      (fun _ _ hg => hg) (fun x hx => ?_)
    rcases List.mem_append.mp hx with hx | hx
    · exact Or.inl hx
    · rw [List.mem_singleton.mp hx, hkept]
      exact Or.inr ⟨hsent, g, hg⟩
  | err => exact hmove

/-- Fewer packets wait. -/
theorem TunnelInv.dropHeld (h : TunnelInv text log s) (k : Nat) :
    TunnelInv text log
        (s.setCore i { s.cores i with held := (s.cores i).held.eraseIdx k }) ∧
      KeepsGuests s (s.setCore i { s.cores i with held := (s.cores i).held.eraseIdx k }) := by
  have hc := h.cores i
  exact h.setCore ⟨hc.virtTx, hc.virtRx, hc.innerTx, hc.innerRx, hc.guests⟩ rfl
    (fun _ _ hg => hg) (fun _ hx => Or.inl (List.mem_of_mem_eraseIdx hx))

/-- **A guest is accepted**; one that was accepted before keeps what it has. -/
theorem TunnelInv.accept (h : TunnelInv text log s) (id : UInt8) :
    TunnelInv text log (s.setCore i (acceptGuest (loadTables text) (s.cores i) id)) ∧
      KeepsGuests s (s.setCore i (acceptGuest (loadTables text) (s.cores i) id)) := by
  have hc := h.cores i
  unfold acceptGuest
  cases hcfg : guestConfig (loadTables text) (s.cores i).tx.ip id with
  | none => exact h.setCore hc rfl (fun _ _ hg => hg) (fun _ hx => Or.inl hx)
  | some g =>
    dsimp only
    split
    · exact h.setCore hc rfl (fun _ _ hg => hg) (fun _ hx => Or.inl hx)
    · refine h.setCore ⟨hc.virtTx, hc.virtRx, hc.innerTx, hc.innerRx, fun gid g' hg' => ?_⟩ rfl
        (fun gid g' hg' => ?_) (fun _ hx => Or.inl hx)
      · dsimp only at hg'
        by_cases hgid : gid = id.toNat
        · rw [if_pos hgid, Option.some_inj] at hg'
          exact ⟨id, hgid, hg' ▸ hcfg⟩
        · rw [if_neg hgid] at hg'
          exact hc.guests gid g' hg'
      · -- the tables do not change, so neither does what they have for a guest
        by_cases hgid : gid = id.toNat
        · obtain ⟨id', hid', hcfg'⟩ := hc.guests gid g' hg'
          have hidid : id' = id := UInt8.toNat_inj.mp (hid'.symm.trans hgid)
          rw [hidid, hcfg] at hcfg'
          exact (if_pos hgid).trans hcfg'
        · exact (if_neg hgid).trans hg'

/-- **Every step keeps the invariant**, and what the guests are. -/
theorem TunnelInv.step (phdr : PhdrCksum) (h : TunnelInv text log s) (a : TunnelAct) :
    TunnelInv text (log ++ [(tunnelStep phdr (loadTables text) s a).2])
        (tunnelStep phdr (loadTables text) s a).1 ∧
      KeepsGuests s (tunnelStep phdr (loadTables text) s a).1 := by
  cases a with
  | accept i id =>
    obtain ⟨hinv, hk⟩ := h.accept id
    exact ⟨hinv.observe _, hk⟩
  | tx i gid mb n =>
    unfold tunnelStep
    dsimp only
    cases hg : (s.cores i).guests gid with
    | none => exact ⟨h.observe _, KeepsGuests.refl s⟩
    | some g =>
      exact (h.observe (.sent i gid mb.bytes n)).tx phdr
        (List.mem_append_right _ (List.mem_singleton.mpr rfl)) hg
  | retry i k =>
    unfold tunnelStep
    dsimp only
    cases hx : (s.cores i).held[k]? with
    | none => exact ⟨h.observe _, KeepsGuests.refl s⟩
    | some x =>
      dsimp only
      cases hg : (s.cores i).guests x.gid with
      | none => exact ⟨h.observe _, KeepsGuests.refl s⟩
      | some g =>
        dsimp only
        obtain ⟨hsent, -⟩ := h.held i x (List.mem_of_getElem? hx)
        obtain ⟨hdrop, hkd⟩ := h.dropHeld (i := i) k
        obtain ⟨hinv, hk⟩ := hdrop.tx phdr hsent (hkd.guests i x.gid g hg)
        exact ⟨hinv.observe _, hkd.trans hk⟩
  | drop i k =>
    obtain ⟨hinv, hk⟩ := h.dropHeld (i := i) k
    exact ⟨hinv.observe _, hk⟩
  | arp i t q =>
    have hc := (h.cores i).tx (t := { (s.cores i).tx with arpTable := t, fcq := q })
      ⟨rfl, rfl, rfl, rfl⟩
    obtain ⟨hinv, hk⟩ := h.setCore (i := i) hc rfl (fun _ _ hg => hg) (fun _ hx => Or.inl hx)
    exact ⟨hinv.observe _, hk⟩
  | rx i f =>
    have hstate : (tunnelStep phdr (loadTables text) s (.rx i f)).1 = s := by
      unfold tunnelStep
      dsimp only
      split
      · rfl
      · split
        · rfl
        · rfl
    rw [hstate]
    exact ⟨h.observe _, KeepsGuests.refl s⟩

theorem TunnelSys.Init.inv (h : s.Init (loadTables text)) : TunnelInv text [] s := by
  refine ⟨fun i => ⟨h.virtTx i, h.virtRx i, h.innerTx i, h.innerRx i, fun gid g hg => ?_⟩,
    fun i x hx => ?_, fun w hw => ?_⟩
  · rw [h.guests i gid] at hg
    cases hg
  · rw [h.held i] at hx
    cases hx
  · rw [h.wire] at hw
    cases hw

end steps

/-! ## What arrives -/

/-- Guest `gid` of core `i` received in `f` the packet `q` of guest `gid'` of
core `i'`, which is in the same network and sent it to that address. -/
structure Received (s : TunnelSys) (i gid : Nat) (f : WireFrame) (i' gid' : Nat)
    (q : Nat → UInt8) (n : UInt64) : Prop where
  network : ∃ g g', (s.cores i).guests gid = some g ∧ (s.cores i').guests gid' = some g' ∧
    g.greKey = g'.greKey ∧ g.ip = be32 q 58
  len : f.len = (n + 42).toUInt16
  bytes : ∀ k, ¬ ChksumByte (q 51) k → f.bytes (greInnerOff + k) = q (greInnerOff + k)

/-- What a guest received was sent before, to it and in its network. -/
def Isolated (log : List TunnelObs) (s : TunnelSys) : Prop :=
  ∀ j i gid f, log[j]? = some (.received i gid f) →
    ∃ i' gid' q n, TunnelObs.sent i' gid' q n ∈ log.take j ∧ Received s i gid f i' gid' q n

/-- **What virtual networks promise.** -/
structure TunnelSafe (text : Text) (log : List TunnelObs) (s : TunnelSys) : Prop where
  /-- A guest is in the network, and under the address, of its row. -/
  own : ∀ i gid g, (s.cores i).guests gid = some g →
    gid = g.id.toNat ∧ ∃ r ∈ readRows text, GuestOfRow g (s.cores i).tx.ip r
  /-- The host that the outer header of a frame names has a guest for it. -/
  routed : ∀ w ∈ s.wire, ∀ f, w.Arrives f → ∀ i, be32 f.bytes 30 = (s.cores i).tx.ip →
    ∃ r ∈ readRows text, infraRx (s.cores i).rx ⟨0, f.bytes⟩ = some r.guestId.toNat ∧
      parseIpv4 r.outerIpStr = (s.cores i).tx.ip ∧ r.greKey = be32 f.bytes 38 ∧
      parseIpv4 r.innerIpStr = be32 f.bytes 58
  isolated : Isolated log s

section arrive

variable {text : Text} {log : List TunnelObs} {s s' : TunnelSys} {w f : WireFrame}

theorem not_greChksumByte_front (p : Nat → UInt8) {i : Nat} (h : i < greInnerOff) (h24 : i ≠ 24)
    (h25 : i ≠ 25) : ¬ GreChksumByte p i := by
  rintro (h | h | ⟨h, -⟩)
  · exact h24 h
  · exact h25 h
  · omega

/-- The inner destination is at 16 of the inner header. -/
theorem not_chksumByte_dst (proto : UInt8) {i : Nat} (hlo : 16 ≤ i) (hhi : i < 20) :
    ¬ ChksumByte proto i := by
  unfold ChksumByte
  omega

/-- What a frame carries when it arrives. -/
theorem WireFrame.Carries.arrives {key : UInt32} {q : Nat → UInt8} {n : UInt64}
    (h : w.Carries text key q n) (ha : w.Arrives f) : f.Carries text key q n := by
  have hfront : ∀ i, i < 24 ∨ 26 ≤ i → i < 42 → f.bytes i = w.bytes i := fun i hi hlt =>
    ha.bytes i (not_greChksumByte_front _ hlt (by omega) (by omega))
  -- the protocol byte is none of a checksum
  have hproto : w.bytes 51 = q 51 := h.inner 9 (by unfold ChksumByte; omega)
  obtain ⟨e, he, hout⟩ := h.row
  refine ⟨ha.len.trans h.len, ?_, ?_, fun i hi => ?_, e, he, ?_⟩
  · rw [be16_congr fun i _ _ => hfront i (by omega) (by omega)]
    exact h.ethType
  · rw [be32_congr fun i _ _ => hfront i (by omega) (by omega)]
    exact h.greKey
  · rw [← h.inner i hi]
    refine ha.bytes _ ?_
    rw [GreChksumByte, Nat.add_sub_cancel_left, hproto]
    unfold greInnerOff
    rintro (h | h | ⟨-, h⟩)
    · omega
    · omega
    · exact hi h
  · rw [be32_congr fun i _ _ => hfront i (by omega) (by omega)]
    exact hout

theorem WireFrame.Carries.dst {key : UInt32} {q : Nat → UInt8} {n : UInt64}
    (h : w.Carries text key q n) : Pkt.be32 w.bytes 58 = Pkt.be32 q 58 := by
  refine be32_congr fun i hlo hhi => ?_
  have := h.inner (i - 42) (not_chksumByte_dst _ (by omega) (by omega))
  rwa [show greInnerOff + (i - 42) = i by unfold greInnerOff; omega] at this

/-- **Where a frame goes**: to the guest of the row that the sender found. -/
theorem CoreInv.infraRx {c : TunnelCore} (hfile : NetvirtFile text) (hc : CoreInv text c)
    {key : UInt32} {q : Nat → UInt8} {n : UInt64} (hcar : f.Carries text key q n)
    (hkey : key ≠ netvirtInvalid) (hip : Pkt.be32 f.bytes 30 = c.tx.ip) :
    ∃ r ∈ readRows text, Fast.infraRx c.rx ⟨0, f.bytes⟩ = some r.guestId.toNat ∧
      parseIpv4 r.outerIpStr = c.tx.ip ∧ r.greKey = key ∧
      parseIpv4 r.innerIpStr = Pkt.be32 q 58 := by
  obtain ⟨e, he, hout⟩ := hcar.row
  obtain ⟨r, hr, rfl, hk, hi⟩ := hfile.inner_row hkey he
  refine ⟨r, hr, ?_, hout.trans hip, hk, hi⟩
  have hget : netvirtTableGet c.rx.innerTable (Pkt.be32 f.bytes 38) (Pkt.be32 f.bytes 58) =
      some r.innerEntry := by
    rw [hcar.greKey, hcar.dst, hc.innerRx]
    exact he
  unfold Fast.infraRx processRxIp RxFrame.ethType RxFrame.greKey RxFrame.innerDst
  dsimp only
  rw [hcar.ethType, if_neg (by decide), if_pos hc.virtRx, hget]
  rfl

/-- The key of an accepted guest is no `NETVIRT_INVALID`. -/
theorem CoreInv.key {c : TunnelCore} (hfile : NetvirtFile text) (hc : CoreInv text c) {gid : Nat}
    {g : GuestNet} (hg : c.guests gid = some g) :
    gid = g.id.toNat ∧ g.greKey ≠ netvirtInvalid ∧
      ∃ r ∈ readRows text, GuestOfRow g c.tx.ip r := by
  obtain ⟨id, hid, hcfg⟩ := hc.guests gid g hg
  obtain ⟨rfl, r, hr, hrow⟩ := hfile.guestConfig_row hcfg
  exact ⟨hid, fun h => (hfile.keyed r hr).1 (hrow.greKey.symm.trans h), r, hr, hrow⟩

/-- **A guest that gets a frame is the one it was for.** -/
theorem CoreInv.receiver {c : TunnelCore} (hfile : NetvirtFile text) (hc : CoreInv text c)
    {gid : Nat} {g : GuestNet} {r : Row} (hg : c.guests gid = some g) (hr : r ∈ readRows text)
    (hgid : r.guestId.toNat = gid) (hip : parseIpv4 r.outerIpStr = c.tx.ip) :
    g.greKey = r.greKey ∧ g.ip = parseIpv4 r.innerIpStr := by
  obtain ⟨hid, -, r', hr', hrow⟩ := hc.key hfile hg
  have hsame : r'.guestId = r.guestId := by
    rw [hrow.guestId, ← hid, ← hgid, UInt32.ofNat_toNat]
  obtain ⟨hkey, hinner⟩ := hfile.one r' hr' r hr hsame (hrow.outerIp.trans hip.symm)
  exact ⟨hrow.greKey.trans hkey, hrow.innerIp.trans hinner⟩

theorem Received.keeps {i gid i' gid' : Nat} {q : Nat → UInt8} {n : UInt64}
    (h : Received s i gid f i' gid' q n) (hk : KeepsGuests s s') :
    Received s' i gid f i' gid' q n := by
  obtain ⟨g, g', hg, hg', hnet⟩ := h.network
  exact ⟨⟨g, g', hk.guests i gid g hg, hk.guests i' gid' g' hg', hnet⟩, h.len, h.bytes⟩

/-- **A step keeps what was received in order.** -/
theorem Isolated.step {phdr : PhdrCksum} (hfile : NetvirtFile text) (h : Isolated log s)
    (hinv : TunnelInv text log s) {a : TunnelAct} (hok : TunnelOk s a) :
    Isolated (log ++ [(tunnelStep phdr (loadTables text) s a).2])
      (tunnelStep phdr (loadTables text) s a).1 := by
  obtain ⟨-, hk⟩ := hinv.step phdr a
  intro j i gid f hj
  rcases Nat.lt_or_ge j log.length with hlt | hge
  · rw [List.getElem?_append_left hlt] at hj
    obtain ⟨i', gid', q, n, hsent, hrec⟩ := h j i gid f hj
    rw [List.take_append_of_le_length (Nat.le_of_lt hlt)]
    exact ⟨i', gid', q, n, hsent, hrec.keeps hk⟩
  · rw [List.getElem?_append_right hge] at hj
    obtain ⟨hj0, hobs⟩ : j = log.length ∧
        (tunnelStep phdr (loadTables text) s a).2 = .received i gid f := by
      cases hd : j - log.length with
      | zero =>
        rw [hd, List.getElem?_cons_zero, Option.some_inj] at hj
        exact ⟨by omega, hj⟩
      | succ k =>
        rw [hd, List.getElem?_cons_succ, List.getElem?_nil] at hj
        cases hj
    rw [hj0, List.take_left]
    clear hj hj0 hge
    cases a with
    | rx i₁ f₁ =>
      obtain ⟨⟨w, hw, harr⟩, hip⟩ := hok
      obtain ⟨i', gid', q, n, g', hsent, hg', hcar⟩ := hinv.wire w hw
      have hkey := ((hinv.cores i').key hfile hg').2.1
      obtain ⟨r, hr, hrx, hout, hrkey, hrdst⟩ :=
        (hinv.cores i₁).infraRx hfile (hcar.arrives harr) hkey hip
      unfold tunnelStep at hobs ⊢
      dsimp only at hobs ⊢
      rw [hrx] at hobs ⊢
      dsimp only at hobs ⊢
      cases hg : (s.cores i₁).guests r.guestId.toNat with
      | none =>
        rw [hg] at hobs
        cases hobs
      | some g =>
        rw [hg] at hobs
        cases hobs
        obtain ⟨hgk, hgip⟩ := (hinv.cores i).receiver hfile hg hr rfl hout
        have hcarf := hcar.arrives harr
        exact ⟨i', gid', q, n, hsent, ⟨g, g', hg, hg', hgk.trans hrkey, hgip.trans hrdst⟩,
          hcarf.len, hcarf.inner⟩
    | tx i₁ gid₁ mb n =>
      unfold tunnelStep at hobs
      dsimp only at hobs
      split at hobs
      · cases hobs
      · cases hobs
    | retry i₁ k =>
      unfold tunnelStep at hobs
      dsimp only at hobs
      split at hobs
      · cases hobs
      · split at hobs
        · cases hobs
        · cases hobs
    | accept i₁ id => cases hobs
    | drop i₁ k => cases hobs
    | arp i₁ t q => cases hobs

end arrive

/-- **Virtual networks are isolated.** All hosts read one file they can use.
In every run of them, whatever the guests put into their packets and however
frames are delayed, repeated and reordered: a guest is in the network of its
row; every frame on the wire is, at the host its outer header names, for the
guest of a row of that host with the key and the address the frame carries;
and what a guest receives was sent before, by a guest of its own network, to
its own address, and is what that guest sent but for the checksums. -/
theorem tunnel_isolated {phdr : PhdrCksum} {text : Text} (hfile : NetvirtFile text)
    {s₀ s : TunnelSys} {log : List TunnelObs} (h₀ : s₀.Init (loadTables text))
    (hrun : Run TunnelOk (tunnelStep phdr (loadTables text)) s₀ log s) :
    TunnelSafe text log s := by
  have hall : TunnelInv text log s ∧ Isolated log s := by
    refine hrun.inv (I := fun log s => TunnelInv text log s ∧ Isolated log s) ⟨h₀.inv, ?_⟩ ?_
    · intro j i gid f hj
      rw [List.getElem?_nil] at hj
      cases hj
    · intro log s a ⟨hinv, hiso⟩ hok
      exact ⟨(hinv.step phdr a).1, hiso.step hfile hinv hok⟩
  obtain ⟨hinv, hiso⟩ := hall
  refine ⟨fun i gid g hg => ?_, fun w hw f harr i hip => ?_, hiso⟩
  · obtain ⟨hid, -, hrow⟩ := (hinv.cores i).key hfile hg
    exact ⟨hid, hrow⟩
  · obtain ⟨i', gid', q, n, g', -, hg', hcar⟩ := hinv.wire w hw
    have hcarf := hcar.arrives harr
    obtain ⟨r, hr, hrx, hout, hkey, hdst⟩ :=
      (hinv.cores i).infraRx hfile hcarf ((hinv.cores i').key hfile hg').2.1 hip
    exact ⟨r, hr, hrx, hout, hkey.trans hcarf.greKey.symm, hdst.trans hcarf.dst.symm⟩

/-! ## Two hosts

Guest 0 of host `1.0.0.1` sends a packet to guest 0 of host `1.0.0.2`. The
packet waits until the address of the second host is known. -/

/-- `"h\n0, 7, 1.0.0.1, 9.0.0.1\n0, 7, 1.0.0.2, 9.0.0.2\n"`. -/
def twoHostsFile : Text :=
  [104, 10, 48, 44, 32, 55, 44, 32, 49, 46, 48, 46, 48, 46, 49, 44, 32, 57, 46, 48, 46, 48, 46, 49,
    10, 48, 44, 32, 55, 44, 32, 49, 46, 48, 46, 48, 46, 50, 44, 32, 57, 46, 48, 46, 48, 46, 50, 10]

instance (r : Row) : Decidable r.Keyed := inferInstanceAs (Decidable (_ ∧ _))

theorem twoHostsFile_ok : NetvirtFile twoHostsFile :=
  ⟨by decide +kernel, by decide +kernel, by decide +kernel⟩

/-- A core of host `1.0.0.1`, and one of host `1.0.0.2`. -/
def twoHosts (ts : NetvirtTables) : TunnelSys where
  cores i :=
    { tx :=
        { virtGre := true, ip := if i = 0 then 0x01000001 else 0x01000002
          mac := ⟨2, 0, 0, 0, 0, 1⟩, innerTable := ts.innerTable
          arpTable := ArpTable.arpTableInit ⟨fun _ => ⟨0, false, ⟨0, 0, 0, 0, 0, 0⟩, none⟩⟩
          fcq := ⟨[], 8⟩ }
      rx := { (freshReg true).core with innerTable := ts.innerTable }
      guests := fun _ => none
      held := [] }
  wire := []

theorem twoHosts_init (ts : NetvirtTables) : (twoHosts ts).Init ts :=
  ⟨fun _ => rfl, fun _ => rfl, fun _ => rfl, fun _ => rfl, fun _ _ => rfl, fun _ => rfl, rfl⟩

/-- A UDP packet for `9.0.0.2`. -/
def packetTo2 : TxMbuf where
  mb := 5
  bytes i := if i = 51 then 17 else if i = 58 then 9 else if i = 61 then 2 else 0
  pktLen := 0
  dataLen := 0
  l2Len := 0
  l3Len := 0
  l4Len := 0
  outerL2Len := 0
  outerL3Len := 0
  olFlags := []

/-- The last frame on the wire. -/
def TunnelSys.lastFrame (s : TunnelSys) : WireFrame :=
  s.wire.getLast?.getD ⟨fun _ => 0, 0⟩

/-- The packet is sent, waits, is sent again, and arrives. -/
def sendTo2 : List (TunnelSys → TunnelAct) :=
  [fun _ => .accept 0 0, fun _ => .accept 1 0, fun _ => .tx 0 0 packetTo2 28,
    fun s => .arp 0 (arpInsert (s.cores 0).tx.arpTable 0x01000002 ⟨2, 0, 0, 0, 0, 2⟩).1 ⟨[], 8⟩,
    fun _ => .retry 0 0, fun s => .rx 1 s.lastFrame]

/-- The hosts after the first `k` of these steps. -/
def sendTo2At (k : Nat) : TunnelSys :=
  (sendTo2.take k).foldl
    (fun s act => (tunnelStep (fun _ _ => 0) (loadTables twoHostsFile) s (act s)).1)
    (twoHosts (loadTables twoHostsFile))

theorem lastFrame_ok {s : TunnelSys} {i : Nat}
    (h : s.wire.getLast?.any (fun w => be32 w.bytes 30 = (s.cores i).tx.ip) = true) :
    TunnelOk s (.rx i s.lastFrame) := by
  obtain ⟨w, hw, hip⟩ := (Option.any_eq_true _ _).mp h
  have hlast : s.lastFrame = w := by
    unfold TunnelSys.lastFrame
    rw [hw]
    rfl
  rw [hlast]
  exact ⟨⟨w, List.mem_of_getLast? hw, rfl, fun _ _ => rfl⟩, of_decide_eq_true hip⟩

/-- Guest 0 of core 1 got the observation. -/
def TunnelObs.receivedBy1 : TunnelObs → Bool
  | .received 1 0 _ => true
  | _ => false

theorem tunnel_isolated_two_hosts :
    ∃ log, Run TunnelOk (tunnelStep (fun _ _ => 0) (loadTables twoHostsFile))
        (twoHosts (loadTables twoHostsFile)) log (sendTo2At 6) ∧
      log.any TunnelObs.receivedBy1 = true ∧ TunnelSafe twoHostsFile log (sendTo2At 6) := by
  have h₁ : Run TunnelOk (tunnelStep (fun _ _ => 0) (loadTables twoHostsFile))
      (twoHosts (loadTables twoHostsFile)) _ (sendTo2At 1) :=
    Run.snoc (a := TunnelAct.accept 0 0) Run.nil trivial
  have h₂ : Run _ _ _ _ (sendTo2At 2) := h₁.snoc (a := TunnelAct.accept 1 0) trivial
  have h₃ : Run _ _ _ _ (sendTo2At 3) := h₂.snoc (a := TunnelAct.tx 0 0 packetTo2 28) trivial
  have h₄ : Run _ _ _ _ (sendTo2At 4) :=
    h₃.snoc (a := TunnelAct.arp 0
      (arpInsert ((sendTo2At 3).cores 0).tx.arpTable 0x01000002 ⟨2, 0, 0, 0, 0, 2⟩).1 ⟨[], 8⟩) trivial
  have h₅ : Run _ _ _ _ (sendTo2At 5) := h₄.snoc (a := TunnelAct.retry 0 0) trivial
  have h₆ : Run _ _ _ _ (sendTo2At 6) :=
    h₅.snoc (a := TunnelAct.rx 1 (sendTo2At 5).lastFrame) (lastFrame_ok (by decide +kernel))
  exact ⟨_, h₆, by decide +kernel, tunnel_isolated twoHostsFile_ok (twoHosts_init _) h₆⟩

end Chamelio.Netvirt
