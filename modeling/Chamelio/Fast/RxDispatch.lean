import Chamelio.Arp.Packets
import Chamelio.Fast.ControlIf
import Chamelio.Fast.Txcache
import Chamelio.Netvirt.Table
import Chamelio.Pkt.Hdr

/-!
# Received frames and the guests they go to (`fast/infra.c`, `fast_rx.c`, `fast_comb.c`)

`infra_rx` names a guest for a frame, or none: with network virtualisation
the guest the inner table has for the GRE key and the inner destination, else
guest 0. The receive poll runs that guest's handler. Three loops do so, and
each looks at the guest differently: the eBPF loop calls the virtual machine
of the guest and looks at nothing; the loop of the handwritten protocols
switches on the guest's protocol; the combined loop first asks whether the
guest's program was uploaded.

Mirroring notes: the context keeps an uploaded program as `hasEvents`, which
stands for `has_event_rx` and for `event_rx_vm != NULL`: both are cleared by
`handle_new_guest` and set by `handle_upload_ebpf`, and the control path
sends no upload whose machines are not built. What a handler and `infra_tx`
return for a frame, and how many packets the NIC takes, are answers given to
the poll. Budgets and statistics are left out.
-/

namespace Chamelio.Fast

open Chamelio.Control Chamelio.Netvirt Chamelio.Pkt

/-- `FAST_RX_BATCH_SIZE`. -/
def fastRxBatchSize : Nat := 16
/-- `TXBUF_SIZE`. -/
def txbufSize : Nat := 64

/-- The part of `struct fast_context` the receive path reads. -/
structure RxCore where
  fpProtoMode : FpProtoMode
  fpJitCombined : Bool
  virtGre : Bool
  innerTable : NetvirtTable
  /-- The functions of the combined loop are there (`agg_fns_ready`). -/
  aggFns : Bool
  ctx : FastCtx

/-- A received mbuf and the bytes from its data offset on. -/
structure RxFrame where
  mb : Nat
  bytes : Nat → UInt8

namespace RxFrame

/-- `eth->type`. -/
def ethType (fr : RxFrame) : UInt16 := be16 fr.bytes 12
/-- `pkt_gre->gre.key`. -/
def greKey (fr : RxFrame) : UInt32 := be32 fr.bytes 38
/-- `pkt_gre->inner_ip.dst`. -/
def innerDst (fr : RxFrame) : UInt32 := be32 fr.bytes 58

end RxFrame

/-- How a poll can end the process. -/
inductive RxFault
  /-- `ctx->guests[gid]` is behind the array. -/
  | outOfBounds (gid : Nat)
  /-- `ebpf_vm_exec(NULL, ..)`. -/
  | nullVm (gid : Nat)
  deriving DecidableEq, Repr

/-- The receive handlers. -/
inductive RxHandler
  | vm
  | tcp
  | udp
  | slot (i : Nat)
  deriving DecidableEq, Repr

inductive RxOut
  | dropped
  | ran (gid : Nat) (h : RxHandler)
  deriving DecidableEq, Repr

/-- `INFRA_RET_OK`, `INFRA_RET_MBUF`, `INFRA_RET_ERR`. -/
inductive InfraRet
  | ok | mbuf | err
  deriving DecidableEq, Repr

/-- What the handler and `infra_tx` return for a frame. -/
structure RxAns where
  rxRet : Int
  infraTx : InfraRet

/-- `process_rx_ip`: the index of the guest. -/
def processRxIp (c : RxCore) (fr : RxFrame) : Option Nat :=
  if c.virtGre then
    match netvirtTableGet c.innerTable fr.greKey fr.innerDst with
    | none => none
    | some e => some e.gid.toNat
  else some 0

/-- `infra_rx`; what an ARP packet makes the core send is in `Arp`. -/
def infraRx (c : RxCore) (fr : RxFrame) : Option Nat :=
  if fr.ethType = Arp.ethTypeArp then none else processRxIp c fr

/-- `proto_hand_event_rx`: the handler it calls. -/
def protoHandEventRx (protoType : Nat) : Option RxHandler :=
  if protoType = chamProtoTcp then some .tcp
  else if protoType = chamProtoUdp then some .udp
  else none

/-- What both polls do with the handler's result: the packet is queued for
transmission, kept by the control path, or neither. -/
def rxDone (m : Mbufs) (mb : Nat) (ans : RxAns) : Mbufs × Bool :=
  if 0 < ans.rxRet then
    match ans.infraTx with
    | .ok => ({ m with txMbs := m.txMbs ++ [mb] }, true)
    | .mbuf => (m, true)
    | .err => (m, false)
  else (m, false)

/-- The `switch` of `rx_poll_guest`. -/
def rxSwitch (c : RxCore) (gid : Nat) : Except RxFault (Option RxHandler) :=
  match c.fpProtoMode with
  | .ebpf => if (c.ctx.guests gid).hasEvents then .ok (some .vm) else .error (.nullVm gid)
  | .hand => .ok (protoHandEventRx (c.ctx.guests gid).protoType)
  | .unknown => .ok none

/-- `rx_poll_slot`: the slot is that of the guest's own id. -/
def rxSlot (c : RxCore) (gid : Nat) : Option RxHandler :=
  let g := c.ctx.guests gid
  if g.id < chamelioMaxGuests ∧ g.hasEvents = true then some (.slot g.id) else none

/-- The handler a poll runs for a frame of guest `gid`. -/
def rxPick (c : RxCore) (gid : Nat) : Except RxFault (Option RxHandler) :=
  if chamelioMaxGuests ≤ gid then .error (.outOfBounds gid)
  else if c.fpJitCombined then .ok (rxSlot c gid)
  else rxSwitch c gid

/-- A frame that was polled, and whether its mbuf is kept. -/
structure RxResult where
  frame : RxFrame
  out : RxOut
  mbTx : Bool

/-- One round of the loop of `fast_rx_poll` and `fast_rx_poll_comb`. -/
def rxFrame (c : RxCore) (m : Mbufs) (fr : RxFrame) (ans : RxAns) :
    Except RxFault (RxResult × Mbufs) :=
  match infraRx c fr with
  | none => .ok (⟨fr, .dropped, false⟩, m)
  | some gid =>
    match rxPick c gid with
    | .error e => .error e
    | .ok none => .ok (⟨fr, .dropped, false⟩, m)
    | .ok (some h) => .ok (⟨fr, .ran gid h, (rxDone m fr.mb ans).2⟩, (rxDone m fr.mb ans).1)

/-- The loop over the received frames. -/
def rxLoop (c : RxCore) (ans : Nat → RxAns) :
    List RxFrame → Nat → Mbufs → Except RxFault (List RxResult × Mbufs)
  | [], _, m => .ok ([], m)
  | fr :: frs, i, m =>
    match rxFrame c m fr (ans i) with
    | .error e => .error e
    | .ok (r, m) =>
      match rxLoop c ans frs (i + 1) m with
      | .error e => .error e
      | .ok (rs, m) => .ok (r :: rs, m)

/-- `fast_txflush`, when the NIC takes `sent` packets. -/
def fastTxflush (m : Mbufs) (sent : Nat) : Mbufs := { m with txMbs := m.txMbs.drop sent }

/-- The loop that reuses the mbufs of frames nothing was sent for. -/
def rxReuse : List RxResult → Mbufs → Mbufs
  | [], m => m
  | r :: rs, m => rxReuse rs (if r.mbTx then m else txcacheFree m r.frame.mb)

/-- The frames a poll takes of those the NIC has. The combined loop does not
poll before its functions are there. -/
def rxTaken (c : RxCore) (m : Mbufs) (nic : List RxFrame) : List RxFrame :=
  if c.fpJitCombined = true ∧ c.aggFns = false then []
  else nic.take (min fastRxBatchSize (txbufSize - m.txMbs.length))

/-- `fast_rx_poll` and `fast_rx_poll_comb`. -/
def fastRxPoll (c : RxCore) (m : Mbufs) (nic : List RxFrame) (ans : Nat → RxAns) (sent : Nat) :
    Except RxFault (List RxResult × Mbufs) :=
  match rxTaken c m nic with
  | [] => .ok ([], m)
  | fr :: frs =>
    match rxLoop c ans (fr :: frs) 0 m with
    | .error e => .error e
    | .ok (rs, m) => .ok (rs, rxReuse rs (fastTxflush m sent))

/-! ## What is asked of a poll -/

/-- The guest's handler is uploaded, or its protocol is set. -/
def RxCore.Ready (c : RxCore) (gid : Nat) : Prop :=
  match c.fpProtoMode with
  | .ebpf => (c.ctx.guests gid).hasEvents = true
  | .hand => (c.ctx.guests gid).protoType ≠ chamProtoInvalid
  | .unknown => False

/-- The frame went nowhere and its mbuf is back, or it went to a registered
guest that is ready for it and that the table names. -/
def RxResult.Fine (c : RxCore) (m : Mbufs) (r : RxResult) : Prop :=
  match r.out with
  | .dropped => m.Returned r.frame.mb
  | .ran gid _ =>
    gid < c.ctx.nGuests ∧ (c.ctx.guests gid).id = gid ∧ c.Ready gid ∧
      (c.virtGre = true →
        c.innerTable.Assigns r.frame.greKey r.frame.innerDst (UInt32.ofNat gid))

/-- A poll ends, and does the right thing with every frame it took. -/
def RxDispatched (c : RxCore) (m : Mbufs) (nic : List RxFrame) (ans : Nat → RxAns) (sent : Nat) :
    Prop :=
  ∃ rs m', fastRxPoll c m nic ans sent = .ok (rs, m') ∧
    rs.map RxResult.frame = rxTaken c m nic ∧ ∀ r ∈ rs, r.Fine c m'

/-- The guest is one the core has a slot for, and the eBPF loop finds its
program. -/
def RxCore.TakesFrames (c : RxCore) (gid : Nat) : Prop :=
  gid < chamelioMaxGuests ∧
    (c.fpProtoMode = .ebpf → c.fpJitCombined = false → (c.ctx.guests gid).hasEvents = true)

/-- The frame is an ARP packet, or it is for no guest of the table, or for one
that takes frames. -/
def RxCore.FrameOk (c : RxCore) (fr : RxFrame) : Prop :=
  fr.ethType ≠ Arp.ethTypeArp →
    if c.virtGre then
      match netvirtTableGet c.innerTable fr.greKey fr.innerDst with
      | none => True
      | some e => c.TakesFrames e.gid.toNat
    else c.TakesFrames 0

end Chamelio.Fast
