import Chamelio.Arp.System
import Chamelio.Fast.RxDispatch
import Chamelio.Fast.StaleBytes

/-!
# Packets on their way out (`fast/infra.c`)

`infra_tx` gets a packet of a guest ready for the wire: it looks for the
hardware address of the next host, writes the headers in front of the guest's
own packet, the lengths the NIC needs and the checksums the NIC completes.
With network virtualisation the guest's packet is the inner one of a GRE
packet (`struct gre_pkt`): the Ethernet header is at 0, the outer IP header at
14, the GRE header at 34 and the guest's packet at 42. Without, the guest's
packet is behind the Ethernet header.

What a guest's handler left in front of its packet is of no account: the
42 bytes are written whole. Of the packet itself only the checksum fields
change (`Encapsulated.inner`).

Mirroring notes: `rte_ipv4_phdr_cksum` is DPDK's and a parameter; its result
is stored as the host has it, low byte first. `ol_flags` is the set of
`RTE_MBUF_F_TX_*` flags, whose values are DPDK's too. A GRE header is written
in the order of the source; `pkt_len` is a `size_t`, `mb->data_len` 16 bits
and `mb->pkt_len` 32.
-/

namespace Chamelio.Fast

open Chamelio.Arp Chamelio.Lib Chamelio.Netvirt Chamelio.Pkt

/-- `ETH_TYPE_IP`. -/
def ethTypeIp : UInt16 := 0x0800
/-- `GRE_PROTO_IP`. -/
def greProtoIp : UInt16 := 0x0800
/-- `IP_PROTO_GRE`. -/
def ipProtoGre : UInt8 := 47
/-- `sizeof(struct eth_hdr)`. -/
def ethHdrSize : Nat := 14
/-- `sizeof(struct gre_hdr)`. -/
def greHdrSize : Nat := 8
/-- Offset of `inner_ip` in `struct gre_pkt`. -/
def greInnerOff : Nat := 42

/-- The flags `infra_tx` sets in `mb->ol_flags`. -/
inductive TxFlag
  | ipv4 | ipCksum | tcpCksum | udpCksum | outerIpv4 | outerIpCksum | tunnelGre
  deriving DecidableEq, Repr

/-- The part of `struct rte_mbuf` `infra_tx` reads and writes. -/
structure TxMbuf where
  mb : Nat
  /-- From the data offset on. -/
  bytes : Nat → UInt8
  pktLen : UInt32
  dataLen : UInt16
  l2Len : Nat
  l3Len : Nat
  l4Len : Nat
  outerL2Len : Nat
  outerL3Len : Nat
  olFlags : List TxFlag

/-- The part of `struct guest_fast` that is about virtual networks. -/
structure GuestNet where
  id : UInt8
  ip : UInt32
  greKey : UInt32
  deriving DecidableEq, Repr

/-- The part of `struct fast_context` `infra_tx` reads and writes. -/
structure TxCore where
  virtGre : Bool
  /-- `ctx->config->ip`. -/
  ip : UInt32
  /-- `ctx->nic_ctx.eth_addr`. -/
  mac : EthAddr
  innerTable : NetvirtTable
  arpTable : ArpTable
  /-- `fast_ctl_q`. -/
  fcq : Fifo FcMsg

/-- `rte_ipv4_phdr_cksum`: from the bytes of an IP packet and the flags. -/
abbrev PhdrCksum := (Nat → UInt8) → List TxFlag → UInt16

/-- `memcpy(.., ETH_ADDR_LEN)`. -/
def putMac (p : Nat → UInt8) (o : Nat) (m : EthAddr) : Nat → UInt8 :=
  put8 (put8 (put8 (put8 (put8 (put8 p o m.b0) (o + 1) m.b1) (o + 2) m.b2) (o + 3) m.b3)
    (o + 4) m.b4) (o + 5) m.b5

/-- A `__u16` in the byte order of the host. -/
def putNative16 (p : Nat → UInt8) (o : Nat) (x : UInt16) : Nat → UInt8 :=
  put8 (put8 p o (UInt8.ofNat x.toNat)) (o + 1) (UInt8.ofNat (x.toNat / 256))

/-- What `process_tx_arp` writes of the Ethernet header when it has the address. -/
def putEth (c : TxCore) (dst : EthAddr) (p : Nat → UInt8) : Nat → UInt8 :=
  put16 (putMac (putMac p 0 dst) 6 c.mac) 12 ethTypeIp

/-- `process_tx_hdrs_gre`. -/
def processTxHdrsGre (c : TxCore) (g : GuestNet) (outerRemoteIp : UInt32) (pktLen : UInt64)
    (p : Nat → UInt8) : Nat → UInt8 :=
  -- `IPH_VHL_SET(4, 5)`, `_tos`
  let p := put8 (put8 p 14 0x45) 15 0
  let p := put16 p 16 (pktLen + 28).toUInt16
  let p := put16 (put16 p 18 3) 20 0
  let p := put8 (put8 p 22 0xff) 23 ipProtoGre
  let p := put32 (put32 (putNative16 p 24 0) 26 c.ip) 30 outerRemoteIp
  -- `GREH_CKSV_SET(0, 1, 0, 0)`
  put32 (put16 (put16 p 34 0x2000) 36 greProtoIp) 38 g.greKey

/-- `process_tx_mbuf_gre`. -/
def processTxMbufGre (mb : TxMbuf) (pktLen : UInt64) : TxMbuf :=
  { mb with
    dataLen := (pktLen + 42).toUInt16
    -- `mb->pkt_len = mb->data_len = ..`
    pktLen := (pktLen + 42).toUInt16.toUInt32
    l2Len := greHdrSize
    l3Len := ipHdrSize
    l4Len := 0
    outerL2Len := ethHdrSize
    outerL3Len := ipHdrSize
    olFlags := [] }

/-- `process_tx_mbuf`. -/
def processTxMbuf (mb : TxMbuf) (pktLen : UInt64) : TxMbuf :=
  { mb with
    pktLen := (pktLen + 14).toUInt32
    dataLen := (pktLen + 14).toUInt16
    l2Len := ethHdrSize
    olFlags := [] }

/-- The transport checksum at `o + at` of the IP packet at `o`: zero, then the
sum over the pseudo header. -/
def putPhdrCksum (phdr : PhdrCksum) (o k : Nat) (flags : List TxFlag) (p : Nat → UInt8) :
    Nat → UInt8 :=
  let p := putNative16 p (o + k) 0
  putNative16 p (o + k) (phdr (fun i => p (o + i)) flags)

/-- Offset of the TCP checksum in an IP packet. -/
def tcpChksumOff : Nat := 36
/-- Offset of the UDP checksum in an IP packet. -/
def udpChksumOff : Nat := 26

/-- `process_tx_chksum`. -/
def processTxChksum (phdr : PhdrCksum) (mb : TxMbuf) : TxMbuf :=
  let p := putNative16 mb.bytes 24 0
  if p 23 = ipProtoTcp then
    { mb with
      bytes := putPhdrCksum phdr 14 tcpChksumOff [.ipv4, .ipCksum, .tcpCksum] p
      olFlags := [.ipv4, .ipCksum, .tcpCksum] }
  else if p 23 = ipProtoUdp then
    { mb with
      bytes := putPhdrCksum phdr 14 udpChksumOff [.ipv4, .ipCksum, .udpCksum] p
      olFlags := [.ipv4, .ipCksum, .udpCksum] }
  else { mb with bytes := p }

/-- `process_tx_chksum_gre`: the sum is taken before the flags are set. -/
def processTxChksumGre (phdr : PhdrCksum) (mb : TxMbuf) : TxMbuf :=
  let p := putNative16 (putNative16 mb.bytes 24 0) 52 0
  if p 51 = ipProtoTcp then
    { mb with
      bytes := putPhdrCksum phdr greInnerOff tcpChksumOff mb.olFlags p
      olFlags := [.outerIpv4, .outerIpCksum, .tunnelGre, .ipv4, .ipCksum, .tcpCksum] }
  else if p 51 = ipProtoUdp then
    { mb with
      bytes := putPhdrCksum phdr greInnerOff udpChksumOff mb.olFlags p
      olFlags := [.outerIpv4, .outerIpCksum, .tunnelGre, .ipv4, .ipCksum, .udpCksum] }
  else { mb with bytes := p }

/-- The `outer_remote_ip` of `infra_tx`; `none` when the table has no entry. -/
def outerRemoteIp (c : TxCore) (g : GuestNet) (p : Nat → UInt8) : Option UInt32 :=
  if c.virtGre then (netvirtTableGet c.innerTable g.greKey (be32 p 58)).map NetvirtEntry.outerIp
  else some (be32 p 30)

/-- What `infra_tx` does with a packet for which it has the address. -/
def infraFrame (phdr : PhdrCksum) (c : TxCore) (g : GuestNet) (mb : TxMbuf) (pktLen : UInt64)
    (ip : UInt32) (mac : EthAddr) : TxMbuf :=
  let mb := { mb with bytes := putEth c mac mb.bytes }
  if c.virtGre then
    let mb := { mb with bytes := processTxHdrsGre c g ip pktLen mb.bytes }
    processTxChksumGre phdr (processTxMbufGre mb pktLen)
  else processTxChksum phdr (processTxMbuf mb pktLen)

/-- `infra_tx`. -/
def infraTx (phdr : PhdrCksum) (c : TxCore) (g : GuestNet) (mb : TxMbuf) (pktLen : UInt64) :
    TxCore × TxMbuf × InfraRet :=
  match outerRemoteIp c g mb.bytes with
  | none => (c, mb, .err)
  | some ip =>
    match processTxArp c.arpTable c.fcq ⟨g.id, pktLen.toNat, mb.mb⟩ ip with
    | (arpTable, fcq, .ok mac) =>
      ({ c with arpTable, fcq }, infraFrame phdr c g mb pktLen ip mac, .ok)
    | (arpTable, fcq, .mbuf) => ({ c with arpTable, fcq }, mb, .mbuf)
    | (arpTable, fcq, .err) => ({ c with arpTable, fcq }, mb, .err)

/-! ## What is written where -/

section bytes

variable {p q : Nat → UInt8} {o i : Nat}

theorem putMac_out (m : EthAddr) (h : i < o ∨ o + 6 ≤ i) : putMac p o m i = p i := by
  unfold putMac
  rw [put8_ne _ _ (by omega), put8_ne _ _ (by omega), put8_ne _ _ (by omega),
    put8_ne _ _ (by omega), put8_ne _ _ (by omega), put8_ne _ _ (by omega)]

theorem putNative16_out (x : UInt16) (h : i < o ∨ o + 2 ≤ i) : putNative16 p o x i = p i := by
  unfold putNative16
  rw [put8_ne _ _ (by omega), put8_ne _ _ (by omega)]

theorem putPhdrCksum_out (phdr : PhdrCksum) (k : Nat) (flags : List TxFlag)
    (h : i < o + k ∨ o + k + 2 ≤ i) : putPhdrCksum phdr o k flags p i = p i := by
  unfold putPhdrCksum
  rw [putNative16_out _ h, putNative16_out _ h]

theorem putEth_out (c : TxCore) (m : EthAddr) (h : 14 ≤ i) : putEth c m p i = p i := by
  unfold putEth
  rw [put16_out _ _ (by omega), putMac_out _ (by omega), putMac_out _ (by omega)]

theorem processTxHdrsGre_out (c : TxCore) (g : GuestNet) (ip : UInt32) (n : UInt64)
    (h : i < 14 ∨ 42 ≤ i) : processTxHdrsGre c g ip n p i = p i := by
  unfold processTxHdrsGre
  rw [put32_out _ _ (by omega), put16_out _ _ (by omega), put16_out _ _ (by omega),
    put32_out _ _ (by omega), put32_out _ _ (by omega), putNative16_out _ (by omega),
    put8_ne _ _ (by omega), put8_ne _ _ (by omega), put16_out _ _ (by omega),
    put16_out _ _ (by omega), put16_out _ _ (by omega), put8_ne _ _ (by omega),
    put8_ne _ _ (by omega)]

end bytes

/-- The bytes of an IP packet with this protocol that hold a checksum. -/
def ChksumByte (proto : UInt8) (i : Nat) : Prop :=
  i = 10 ∨ i = 11 ∨ (proto = ipProtoTcp ∧ (i = 36 ∨ i = 37)) ∨
    (proto = ipProtoUdp ∧ (i = 26 ∨ i = 27))

instance (proto : UInt8) (i : Nat) : Decidable (ChksumByte proto i) :=
  inferInstanceAs (Decidable (_ ∨ _))

/-- The bytes of a GRE frame that hold a checksum. -/
def GreChksumByte (p : Nat → UInt8) (i : Nat) : Prop :=
  i = 24 ∨ i = 25 ∨ (greInnerOff ≤ i ∧ ChksumByte (p 51) (i - greInnerOff))

instance (p : Nat → UInt8) (i : Nat) : Decidable (GreChksumByte p i) :=
  inferInstanceAs (Decidable (_ ∨ _))

/-- **The checksum pass writes checksum fields only.** -/
theorem processTxChksumGre_out (phdr : PhdrCksum) (mb : TxMbuf) {i : Nat}
    (h : ¬ GreChksumByte mb.bytes i) : (processTxChksumGre phdr mb).bytes i = mb.bytes i := by
  have h24 : i ≠ 24 ∧ i ≠ 25 := ⟨fun he => h (Or.inl he), fun he => h (Or.inr (Or.inl he))⟩
  have hin : greInnerOff ≤ i → ¬ ChksumByte (mb.bytes 51) (i - greInnerOff) :=
    fun hle hc => h (Or.inr (Or.inr ⟨hle, hc⟩))
  unfold greInnerOff ChksumByte at hin
  have hzero : putNative16 (putNative16 mb.bytes 24 0) 52 0 i = mb.bytes i := by
    rw [putNative16_out _ (by omega), putNative16_out _ (by omega)]
  have h51 : putNative16 (putNative16 mb.bytes 24 0) 52 0 51 = mb.bytes 51 := by
    rw [putNative16_out _ (by omega), putNative16_out _ (by omega)]
  unfold processTxChksumGre tcpChksumOff udpChksumOff greInnerOff
  dsimp only
  rw [h51]
  by_cases ht : mb.bytes 51 = ipProtoTcp
  · have ht' : 42 ≤ i → ¬ (i - 42 = 36 ∨ i - 42 = 37) :=
      fun hle hc => hin hle (Or.inr (Or.inr (Or.inl ⟨ht, hc⟩)))
    rw [if_pos ht]
    dsimp only
    rw [putPhdrCksum_out _ _ _ (by omega), hzero]
  · rw [if_neg ht]
    by_cases hu : mb.bytes 51 = ipProtoUdp
    · have hu' : 42 ≤ i → ¬ (i - 42 = 26 ∨ i - 42 = 27) :=
        fun hle hc => hin hle (Or.inr (Or.inr (Or.inr ⟨hu, hc⟩)))
      rw [if_pos hu]
      dsimp only
      rw [putPhdrCksum_out _ _ _ (by omega), hzero]
    · rw [if_neg hu]
      exact hzero

theorem processTxChksumGre_dataLen (phdr : PhdrCksum) (mb : TxMbuf) :
    (processTxChksumGre phdr mb).dataLen = mb.dataLen ∧
      (processTxChksumGre phdr mb).mb = mb.mb := by
  unfold processTxChksumGre
  dsimp only
  split
  · exact ⟨rfl, rfl⟩
  · split
    · exact ⟨rfl, rfl⟩
    · exact ⟨rfl, rfl⟩

/-! ## Encapsulation -/

/-- The frame `infra_tx` makes of a packet of guest `g` for the host `ip`:
`p` is what the mbuf held and `n` the length of the packet. -/
structure Encapsulated (c : TxCore) (g : GuestNet) (ip : UInt32) (n : UInt64) (p : Nat → UInt8)
    (mb : TxMbuf) : Prop where
  ethType : be16 mb.bytes 12 = ethTypeIp
  outerLen : be16 mb.bytes 16 = (n + 28).toUInt16
  outerSrc : be32 mb.bytes 26 = c.ip
  outerDst : be32 mb.bytes 30 = ip
  greKey : be32 mb.bytes 38 = g.greKey
  dataLen : mb.dataLen = (n + 42).toUInt16
  inner : ∀ i, ¬ ChksumByte (p 51) i → mb.bytes (greInnerOff + i) = p (greInnerOff + i)

theorem be16_processTxHdrsGre_len (c : TxCore) (g : GuestNet) (ip : UInt32) (n : UInt64)
    (p : Nat → UInt8) : be16 (processTxHdrsGre c g ip n p) 16 = (n + 28).toUInt16 := by
  refine Eq.trans (be16_congr fun i hlo hhi => ?_)
    (be16_put16 (put8 (put8 p 14 0x45) 15 0) 16 (n + 28).toUInt16)
  unfold processTxHdrsGre
  rw [put32_out _ _ (by omega), put16_out _ _ (by omega), put16_out _ _ (by omega),
    put32_out _ _ (by omega), put32_out _ _ (by omega), putNative16_out _ (by omega),
    put8_ne _ _ (by omega), put8_ne _ _ (by omega), put16_out _ _ (by omega),
    put16_out _ _ (by omega)]

/-- **What `infra_tx` puts on the wire is the guest's packet under the key of
its network.** -/
theorem infraFrame_encapsulated (phdr : PhdrCksum) {c : TxCore} (hv : c.virtGre = true)
    (g : GuestNet) (mb : TxMbuf) (n : UInt64) (ip : UInt32) (mac : EthAddr) :
    Encapsulated c g ip n mb.bytes (infraFrame phdr c g mb n ip mac) := by
  let p := putEth c mac mb.bytes
  let h := processTxHdrsGre c g ip n p
  let m : TxMbuf := processTxMbufGre { mb with bytes := h } n
  have hframe : infraFrame phdr c g mb n ip mac = processTxChksumGre phdr m := by
    unfold infraFrame
    rw [if_pos hv]
  -- the checksum pass leaves every field of the front but the checksum
  have hkeep : ∀ i, i < greInnerOff → i ≠ 24 → i ≠ 25 →
      (processTxChksumGre phdr m).bytes i = h i := by
    intro i hi h24 h25
    refine processTxChksumGre_out phdr m ?_
    rintro (h | h | ⟨h, -⟩)
    · exact h24 h
    · exact h25 h
    · omega
  have hback : ∀ i, 42 ≤ i → h i = mb.bytes i := fun i hi => by
    rw [show h i = p i from processTxHdrsGre_out c g ip n (Or.inr hi)]
    exact putEth_out c mac (by omega)
  unfold greInnerOff at hkeep
  rw [hframe]
  refine ⟨?_, ?_, ?_, ?_, ?_, ?_, ?_⟩
  · rw [be16_congr fun i _ _ => hkeep i (by omega) (by omega) (by omega),
      be16_congr fun i _ _ => processTxHdrsGre_out c g ip n (Or.inl (by omega))]
    exact be16_put16 _ _ _
  · rw [be16_congr fun i _ _ => hkeep i (by omega) (by omega) (by omega)]
    exact be16_processTxHdrsGre_len c g ip n p
  · rw [be32_congr fun i _ _ => hkeep i (by omega) (by omega) (by omega)]
    show be32 (put32 (put16 (put16 (put32 (put32 _ 26 c.ip) 30 ip) 34 _) 36 _) 38 _) 26 = c.ip
    rw [be32_put32_ne _ _ (by omega), be32_put16_ne _ _ (by omega), be32_put16_ne _ _ (by omega),
      be32_put32_ne _ _ (by omega)]
    exact be32_put32 _ _ _
  · rw [be32_congr fun i _ _ => hkeep i (by omega) (by omega) (by omega)]
    show be32 (put32 (put16 (put16 (put32 _ 30 ip) 34 _) 36 _) 38 _) 30 = ip
    rw [be32_put32_ne _ _ (by omega), be32_put16_ne _ _ (by omega), be32_put16_ne _ _ (by omega)]
    exact be32_put32 _ _ _
  · rw [be32_congr fun i _ _ => hkeep i (by omega) (by omega) (by omega)]
    exact be32_put32 _ _ _
  · exact (processTxChksumGre_dataLen phdr m).1
  · intro i hi
    have h51 : m.bytes 51 = mb.bytes 51 := hback 51 (by decide)
    have hout : ¬ GreChksumByte m.bytes (greInnerOff + i) := by
      rw [GreChksumByte, h51, Nat.add_sub_cancel_left]
      unfold greInnerOff
      rintro (h | h | ⟨-, h⟩)
      · omega
      · omega
      · exact hi h
    rw [processTxChksumGre_out phdr m hout]
    exact hback _ (by unfold greInnerOff; omega)

/-! ## What `infra_tx` returns -/

section returns

variable {phdr : PhdrCksum} {c c' : TxCore} {g : GuestNet} {mb mb' : TxMbuf} {n : UInt64}

/-- What no call changes of a core. -/
structure SameCore (c c' : TxCore) : Prop where
  virtGre : c'.virtGre = c.virtGre
  ip : c'.ip = c.ip
  mac : c'.mac = c.mac
  innerTable : c'.innerTable = c.innerTable

theorem infraTx_same : SameCore c (infraTx phdr c g mb n).1 := by
  unfold infraTx
  split
  · exact ⟨rfl, rfl, rfl, rfl⟩
  · split
    · exact ⟨rfl, rfl, rfl, rfl⟩
    · exact ⟨rfl, rfl, rfl, rfl⟩
    · exact ⟨rfl, rfl, rfl, rfl⟩

/-- **`INFRA_RET_OK` of a core with virtual networks**: the inner table has the
destination in the guest's own network, and the frame goes to its host. -/
theorem infraTx_ok (hv : c.virtGre = true) (h : infraTx phdr c g mb n = (c', mb', .ok)) :
    ∃ e, netvirtTableGet c.innerTable g.greKey (be32 mb.bytes 58) = some e ∧
      Encapsulated c g e.outerIp n mb.bytes mb' := by
  unfold infraTx at h
  split at h
  · cases h
  · next ip hip =>
    rw [outerRemoteIp, if_pos hv, Option.map_eq_some_iff] at hip
    obtain ⟨e, he, rfl⟩ := hip
    split at h
    · next mac _ =>
      cases h
      exact ⟨e, he, infraFrame_encapsulated phdr hv g mb n e.outerIp mac⟩
    · cases h
    · cases h

/-- A packet that is not sent is left as it is. -/
theorem infraTx_kept (h : (infraTx phdr c g mb n).2.2 ≠ .ok) :
    (infraTx phdr c g mb n).2.1 = mb := by
  revert h
  unfold infraTx
  split
  · exact fun _ => rfl
  · split
    · exact fun h => absurd rfl h
    · exact fun _ => rfl
    · exact fun _ => rfl

end returns

end Chamelio.Fast
