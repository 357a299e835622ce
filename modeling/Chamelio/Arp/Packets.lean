import Chamelio.Lib.Fifo
import Chamelio.Arp.Table

/-!
# ARP packets and packets that wait (`arp/arp.c`, `arp_buf_*`, `arp_request`, `arp_reply`)

The control path sends an ARP packet by putting it on the transmit queue of
core 0 and a `QUEUE_ARP_TX_PKT` message on that core's control queue. A
packet whose destination is not resolved yet is kept in the ARP buffer by the
control path, with the core it came from, and handed back in a
`QUEUE_MBUF_TX` message.

Mirroring notes: an mbuf is the number of its buffer, `0` for `NULL`. The
messages of a core's control queue that have nothing to do with ARP are
`other`. `arp_buf.n` is written once and never read, and is left out.
-/

namespace Chamelio.Arp

open Chamelio.Lib

/-- `struct queue_mbuf_tx`. -/
structure MbufTx where
  gid : UInt8
  pktLen : Nat
  mb : Nat
  deriving DecidableEq, Repr

/-- Messages from the control path to a core. -/
inductive CfMsg
  | arpUpdate (ip : UInt32) (mac : EthAddr)
  | mbufTx (p : MbufTx)
  | arpTxPkt
  | other
  deriving DecidableEq, Repr

/-- Messages from a core to the control path. -/
inductive FcMsg
  | arpLookup (ip : UInt32)
  | mbufPending (ip : UInt32) (p : MbufTx)
  | arpRxReq (spa tpa : UInt32) (sha : EthAddr)
  | arpRxRep (spa : UInt32) (sha : EthAddr) (tpa : UInt32) (tha : EthAddr)
  deriving DecidableEq, Repr

/-- `ETH_TYPE_ARP`. -/
def ethTypeArp : UInt16 := 0x0806
/-- `ARP_OPER_REQUEST`. -/
def arpOperRequest : UInt16 := 1
/-- `ARP_OPER_REPLY`. -/
def arpOperReply : UInt16 := 2
/-- `ARP_HTYPE_ETHERNET`. -/
def arpHtypeEthernet : UInt16 := 1
/-- `ARP_PTYPE_IPV4`. -/
def arpPtypeIpv4 : UInt16 := 0x0800

/-- `struct arp_pkt`. -/
structure ArpPkt where
  ethSrc : EthAddr
  ethDst : EthAddr
  ethType : UInt16
  htype : UInt16
  ptype : UInt16
  hlen : UInt8
  plen : UInt8
  oper : UInt16
  sha : EthAddr
  spa : UInt32
  tha : EthAddr
  tpa : UInt32
  deriving DecidableEq, Repr

/-- `0xffffffffffffULL`, the broadcast address. -/
def ethBroadcast : EthAddr := ⟨0xff, 0xff, 0xff, 0xff, 0xff, 0xff⟩

/-- The packet `arp_request` and `arp_reply` fill in. -/
def arpPkt (localMac dstMac : EthAddr) (localIp remoteIp : UInt32) (oper : UInt16) : ArpPkt where
  ethSrc := localMac
  ethDst := dstMac
  ethType := ethTypeArp
  htype := arpHtypeEthernet
  ptype := arpPtypeIpv4
  hlen := 6
  plen := 4
  oper := oper
  sha := localMac
  spa := localIp
  tha := dstMac
  tpa := remoteIp

/-- A packet on `txq`, then its signal on `cfq`; `false` for `-1`. -/
def arpSend (txq : Fifo ArpPkt) (cfq : Fifo CfMsg) (pkt : ArpPkt) :
    Fifo ArpPkt × Fifo CfMsg × Bool :=
  match txq.push pkt with
  | none => (txq, cfq, false)
  | some txq' =>
    match cfq.push .arpTxPkt with
    -- the packet stays on `txq`
    | none => (txq', cfq, false)
    | some cfq' => (txq', cfq', true)

/-- `arp_request`. -/
def arpRequest (txq : Fifo ArpPkt) (cfq : Fifo CfMsg) (remoteIp : UInt32) (localMac : EthAddr)
    (localIp : UInt32) : Fifo ArpPkt × Fifo CfMsg × Bool :=
  arpSend txq cfq (arpPkt localMac ethBroadcast localIp remoteIp arpOperRequest)

/-- `arp_reply`. -/
def arpReply (txq : Fifo ArpPkt) (cfq : Fifo CfMsg) (localMac : EthAddr) (localIp : UInt32)
    (remoteMac : EthAddr) (remoteIp : UInt32) : Fifo ArpPkt × Fifo CfMsg × Bool :=
  arpSend txq cfq (arpPkt localMac remoteMac localIp remoteIp arpOperReply)

/-- `handle_arp_tx_pkt`: the packet it transmits. -/
def handleArpTxPkt (txq : Fifo ArpPkt) : Fifo ArpPkt × Option ArpPkt :=
  match txq.head? with
  | none => (txq, none)
  | some pkt => (txq.pop, some pkt)

/-! ## The buffer of waiting packets -/

/-- `ARP_BUF_SIZE`. -/
def arpBufSize : Nat := 32

/-- `struct arp_buf_entry`. -/
structure ArpBufEntry where
  ip : UInt32
  core : Nat
  pkt : MbufTx
  deriving DecidableEq, Repr

/-- `struct arp_buf`. -/
structure ArpBuf where
  entries : List ArpBufEntry
  size : entries.length = arpBufSize

/-- The search of `arp_buf_insert` for an empty entry. -/
def bufPut (e : ArpBufEntry) : List ArpBufEntry → Option (List ArpBufEntry)
  | [] => none
  | x :: xs => if x.ip = arpIpEmpty then some (e :: xs) else (bufPut e xs).map (x :: ·)

theorem bufPut_length {e : ArpBufEntry} {xs ys : List ArpBufEntry} (h : bufPut e xs = some ys) :
    ys.length = xs.length := by
  induction xs generalizing ys with
  | nil => cases h
  | cons x xs ih =>
    rw [bufPut] at h
    split at h
    · cases h
      rfl
    · cases hr : bufPut e xs with
      | none => rw [hr] at h; cases h
      | some zs =>
        rw [hr] at h
        cases h
        rw [List.length_cons, List.length_cons, ih hr]

/-- `arp_buf_insert`; `none` for `-1`. -/
def arpBufInsert (buf : ArpBuf) (ip : UInt32) (core : Nat) (pkt : MbufTx) : Option ArpBuf :=
  match h : bufPut { ip, core, pkt } buf.entries with
  | none => none
  | some entries => some { entries, size := (bufPut_length h).trans buf.size }

/-- One core's queue replaced. -/
def setQ {α : Type} (qs : Nat → Fifo α) (i : Nat) (q : Fifo α) : Nat → Fifo α :=
  fun j => if j = i then q else qs j

@[simp] theorem setQ_same {α : Type} (qs : Nat → Fifo α) (i : Nat) (q : Fifo α) :
    setQ qs i q i = q := if_pos rfl

theorem setQ_ne {α : Type} (qs : Nat → Fifo α) {i j : Nat} (q : Fifo α) (h : j ≠ i) :
    setQ qs i q j = qs j := if_neg h

/-- The loop of `arp_buf_flush`: the entries and queues it leaves, and
whether it got to the end. It stops at the first full queue. -/
def flushLoop (ip : UInt32) : List ArpBufEntry → (Nat → Fifo CfMsg) →
    List ArpBufEntry × (Nat → Fifo CfMsg) × Bool
  | [], eqs => ([], eqs, true)
  | e :: es, eqs =>
    if e.ip = ip then
      match (eqs e.core).push (.mbufTx e.pkt) with
      | none => (e :: es, eqs, false)
      | some q =>
        let (es', eqs', done) := flushLoop ip es (setQ eqs e.core q)
        ({ e with ip := arpIpEmpty, pkt := { e.pkt with mb := 0 } } :: es', eqs', done)
    else
      let (es', eqs', done) := flushLoop ip es eqs
      (e :: es', eqs', done)

theorem flushLoop_length (ip : UInt32) (es : List ArpBufEntry) (eqs : Nat → Fifo CfMsg) :
    (flushLoop ip es eqs).1.length = es.length := by
  induction es generalizing eqs with
  | nil => rfl
  | cons e es ih =>
    rw [flushLoop]
    split
    · split
      · rfl
      · rw [List.length_cons, List.length_cons, ih]
    · rw [List.length_cons, List.length_cons, ih]

/-- `arp_buf_flush`; its callers do not look at what it returns. -/
def arpBufFlush (buf : ArpBuf) (ip : UInt32) (eqs : Nat → Fifo CfMsg) :
    ArpBuf × (Nat → Fifo CfMsg) :=
  ({ entries := (flushLoop ip buf.entries eqs).1
     size := (flushLoop_length ip buf.entries eqs).trans buf.size },
    (flushLoop ip buf.entries eqs).2.1)

/-- `arp_buf_init`. -/
def arpBufInit : ArpBuf where
  entries := List.replicate arpBufSize { ip := arpIpEmpty, core := 0, pkt := ⟨0, 0, 0⟩ }
  size := List.length_replicate

end Chamelio.Arp
