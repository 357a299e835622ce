/-!
# Packet headers (`lib/utils/pkt_hdrs`)

A packet buffer is a function from the byte index after `ctx->pkt` to the
byte. The struct fields of `ip_hdr.h`, `tcp_hdr.h` and `udp_hdr.h` are
fixed offsets into it, big-endian on the wire. `struct tcp_pkt_inner` puts
the TCP header at offset 20 whatever the IP header length field says, and
so do the TCP accessors here.
-/

namespace Chamelio.Pkt

/-- `f_beui16`. -/
def be16 (p : Nat → UInt8) (o : Nat) : UInt16 :=
  UInt16.ofNat ((p o).toNat * 256 + (p (o + 1)).toNat)

/-- `f_beui32`. -/
def be32 (p : Nat → UInt8) (o : Nat) : UInt32 :=
  UInt32.ofNat ((p o).toNat * 16777216 + (p (o + 1)).toNat * 65536 +
    (p (o + 2)).toNat * 256 + (p (o + 3)).toNat)

def put8 (p : Nat → UInt8) (o : Nat) (x : UInt8) : Nat → UInt8 :=
  fun i => if i = o then x else p i

/-- `t_beui16`. -/
def put16 (p : Nat → UInt8) (o : Nat) (x : UInt16) : Nat → UInt8 :=
  put8 (put8 p o (UInt8.ofNat (x.toNat / 256))) (o + 1) (UInt8.ofNat x.toNat)

/-- `t_beui32`. -/
def put32 (p : Nat → UInt8) (o : Nat) (x : UInt32) : Nat → UInt8 :=
  put8 (put8 (put8 (put8 p o (UInt8.ofNat (x.toNat / 16777216)))
    (o + 1) (UInt8.ofNat (x.toNat / 65536)))
    (o + 2) (UInt8.ofNat (x.toNat / 256))) (o + 3) (UInt8.ofNat x.toNat)

/-! ## IP header -/

/-- `IPH_V`. -/
def iphV (p : Nat → UInt8) : Nat := (p 0).toNat / 16
/-- `IPH_HL`. -/
def iphHl (p : Nat → UInt8) : Nat := (p 0).toNat % 16
/-- `IPH_ECN`. -/
def iphEcn (p : Nat → UInt8) : Nat := (p 1).toNat % 4
def ipLen (p : Nat → UInt8) : UInt16 := be16 p 2
def ipProto (p : Nat → UInt8) : UInt8 := p 9
def ipSrc (p : Nat → UInt8) : UInt32 := be32 p 12
def ipDst (p : Nat → UInt8) : UInt32 := be32 p 16

/-- `IP_PROTO_TCP`. -/
def ipProtoTcp : UInt8 := 6
/-- `IP_PROTO_UDP`. -/
def ipProtoUdp : UInt8 := 17
/-- `CHAM_IP_ECN_CE`. -/
def ipEcnCe : Nat := 3
/-- `CHAM_IP_ECN_ECT0`. -/
def ipEcnEct0 : UInt8 := 2

/-! ## TCP header -/

def tcpSrc (p : Nat → UInt8) : UInt16 := be16 p 20
def tcpDest (p : Nat → UInt8) : UInt16 := be16 p 22
def tcpSeqno (p : Nat → UInt8) : UInt32 := be32 p 24
def tcpAckno (p : Nat → UInt8) : UInt32 := be32 p 28
/-- `TCPH_HDRLEN`. -/
def tcphHdrlen (p : Nat → UInt8) : Nat := (be16 p 32).toNat / 4096
/-- `TCPH_FLAGS`. -/
def tcphFlags (p : Nat → UInt8) : UInt16 := be16 p 32 &&& 0x1ff
def tcpWnd (p : Nat → UInt8) : UInt16 := be16 p 34

def tcpFin : UInt16 := 0x01
def tcpSyn : UInt16 := 0x02
def tcpRst : UInt16 := 0x04
def tcpPsh : UInt16 := 0x08
def tcpAck : UInt16 := 0x10
def tcpEce : UInt16 := 0x40

/-- `TCP_HLEN`. -/
def tcpHlen : Nat := 20
/-- `TCP_TS_OPT_LEN`. -/
def tcpTsOptLen : Nat := 12
/-- `TCP_OPT_TIMESTAMP`. -/
def tcpOptTimestamp : UInt8 := 8
/-- `sizeof(struct ip_hdr)`. -/
def ipHdrSize : Nat := 20
/-- `sizeof(struct tcp_pkt_inner)`. -/
def tcpPktInnerSize : Nat := 40

/-! ## UDP header

`udp_fast.c` finds the UDP header behind the IP header, at `o = 4 * IHL`. -/

def ipOffset (p : Nat → UInt8) : UInt16 := be16 p 6
def udpSrc (p : Nat → UInt8) (o : Nat) : UInt16 := be16 p o
def udpDst (p : Nat → UInt8) (o : Nat) : UInt16 := be16 p (o + 2)
def udpLen (p : Nat → UInt8) (o : Nat) : UInt16 := be16 p (o + 4)

/-- `sizeof(struct udp_hdr)`. -/
def udpHdrSize : Nat := 8
/-- `sizeof(struct udp_pkt_inner)`. -/
def udpPktInnerSize : Nat := 28

/-! ## Reading back -/

/-- The byte that was stored. -/
@[simp] theorem put8_self (p : Nat → UInt8) (o : Nat) (x : UInt8) : put8 p o x o = x := by
  unfold put8
  rw [if_pos rfl]

/-- Every other byte is as before. -/
theorem put8_ne (p : Nat → UInt8) {o i : Nat} (x : UInt8) (h : i ≠ o) :
    put8 p o x i = p i := by
  unfold put8
  rw [if_neg h]

/-- Bytes outside the field are as before. -/
theorem put16_out (p : Nat → UInt8) {o i : Nat} (x : UInt16) (h : i < o ∨ o + 2 ≤ i) :
    put16 p o x i = p i := by
  unfold put16
  rw [put8_ne _ _ (by omega), put8_ne _ _ (by omega)]

/-- Bytes outside the field are as before. -/
theorem put32_out (p : Nat → UInt8) {o i : Nat} (x : UInt32) (h : i < o ∨ o + 4 ≤ i) :
    put32 p o x i = p i := by
  unfold put32
  rw [put8_ne _ _ (by omega), put8_ne _ _ (by omega), put8_ne _ _ (by omega),
    put8_ne _ _ (by omega)]

/-- A field reads back what was stored in it. -/
theorem be32_put32 (p : Nat → UInt8) (o : Nat) (x : UInt32) : be32 (put32 p o x) o = x := by
  have hx := x.toNat_lt
  apply UInt32.toNat_inj.mp
  have h0 : put32 p o x o = UInt8.ofNat (x.toNat / 16777216) := by
    unfold put32
    rw [put8_ne _ _ (by omega), put8_ne _ _ (by omega), put8_ne _ _ (by omega), put8_self]
  have h1 : put32 p o x (o + 1) = UInt8.ofNat (x.toNat / 65536) := by
    unfold put32
    rw [put8_ne _ _ (by omega), put8_ne _ _ (by omega), put8_self]
  have h2 : put32 p o x (o + 2) = UInt8.ofNat (x.toNat / 256) := by
    unfold put32
    rw [put8_ne _ _ (by omega), put8_self]
  have h3 : put32 p o x (o + 3) = UInt8.ofNat x.toNat := by
    unfold put32
    rw [put8_self]
  unfold be32
  rw [h0, h1, h2, h3]
  simp only [UInt8.toNat_ofNat', UInt32.toNat_ofNat']
  omega

/-- A field reads back what was stored in it. -/
theorem be16_put16 (p : Nat → UInt8) (o : Nat) (x : UInt16) : be16 (put16 p o x) o = x := by
  have hx := x.toNat_lt
  apply UInt16.toNat_inj.mp
  have h0 : put16 p o x o = UInt8.ofNat (x.toNat / 256) := by
    unfold put16
    rw [put8_ne _ _ (by omega), put8_self]
  have h1 : put16 p o x (o + 1) = UInt8.ofNat x.toNat := by
    unfold put16
    rw [put8_self]
  unfold be16
  rw [h0, h1]
  simp only [UInt8.toNat_ofNat', UInt16.toNat_ofNat']
  omega

/-- A field only reads its own bytes. -/
theorem be32_congr {p q : Nat → UInt8} {o : Nat} (h : ∀ i, o ≤ i → i < o + 4 → p i = q i) :
    be32 p o = be32 q o := by
  unfold be32
  rw [h o (by omega) (by omega), h (o + 1) (by omega) (by omega),
    h (o + 2) (by omega) (by omega), h (o + 3) (by omega) (by omega)]

/-- A field depends on its two bytes alone. -/
theorem be16_congr {p q : Nat → UInt8} {o : Nat} (h : ∀ i, o ≤ i → i < o + 2 → p i = q i) :
    be16 p o = be16 q o := by
  unfold be16
  rw [h o (by omega) (by omega), h (o + 1) (by omega) (by omega)]

/-! Fields that do not overlap. -/

/-- A byte stored outside a field leaves it alone. -/
theorem be32_put8_ne (p : Nat → UInt8) {o o' : Nat} (x : UInt8) (h : o < o' ∨ o' + 4 ≤ o) :
    be32 (put8 p o x) o' = be32 p o' :=
  be32_congr (fun _ _ _ => put8_ne p x (by omega))

/-- A field stored beside another leaves it alone. -/
theorem be32_put16_ne (p : Nat → UInt8) {o o' : Nat} (x : UInt16) (h : o + 2 ≤ o' ∨ o' + 4 ≤ o) :
    be32 (put16 p o x) o' = be32 p o' :=
  be32_congr (fun _ _ _ => put16_out p x (by omega))

/-- Two fields that do not overlap. -/
theorem be32_put32_ne (p : Nat → UInt8) {o o' : Nat} (x : UInt32) (h : o + 4 ≤ o' ∨ o' + 4 ≤ o) :
    be32 (put32 p o x) o' = be32 p o' :=
  be32_congr (fun _ _ _ => put32_out p x (by omega))

/-- Two fields that do not overlap. -/
theorem be16_put16_ne (p : Nat → UInt8) {o o' : Nat} (x : UInt16) (h : o + 2 ≤ o' ∨ o' + 2 ≤ o) :
    be16 (put16 p o x) o' = be16 p o' :=
  be16_congr (fun _ _ _ => put16_out p x (by omega))

end Chamelio.Pkt
