import Chamelio.Lib.Run
import Chamelio.Arp.ControlSpec

/-!
# ARP across the cores and the control path

Every core has its own ARP table and a pair of queues to and from the control
path (`fast/infra.c`, `process_tx_arp` and `process_rx_arp`, and the ARP
messages of `fast/controlif.c`). A core that has to send to an unknown
address marks it pending, asks the control path and hands it the packet; the
control path sends the answer to all cores and the packets back to theirs.

The steps of the system are the calls of these functions, on any core and in
any order. The packets that start them, the readings of the clock and the
state of a core's transmit buffer are arbitrary.

Mirroring notes: an mbuf number stands for the buffer with the packet in it,
so the address the packet goes to (`outer_remote_ip`, from its IP header or
through the network virtualisation table) is a function of the message that
carries it; `none` when the table has no entry. A core handles one message at
a time, as `controlif_poll` does. What happens to a packet behind `infra_tx`
is left out. A call of the control path that dereferences `NULL` ends the
process; its step changes nothing.
-/

namespace Chamelio.Arp

open Chamelio.Lib Chamelio.Util

/-! ## The core's side -/

/-- What `process_tx_arp` returns: `INFRA_RET_OK` with the address it found,
`INFRA_RET_ERR` or `INFRA_RET_MBUF`. -/
inductive TxArp
  | ok (mac : EthAddr)
  | err
  | mbuf
  deriving DecidableEq, Repr

/-- The `QUEUE_MBUF_PENDING` message of `process_tx_arp`. -/
def pendMbuf (fcq : Fifo FcMsg) (ip : UInt32) (p : MbufTx) : Fifo FcMsg × TxArp :=
  match fcq.push (.mbufPending ip p) with
  | none => (fcq, .err)
  | some fcq => (fcq, .mbuf)

/-- `process_tx_arp`. -/
def processTxArp (t : ArpTable) (fcq : Fifo FcMsg) (p : MbufTx) (ip : UInt32) :
    ArpTable × Fifo FcMsg × TxArp :=
  match arpLookup t ip with
  | none =>
    match arpInsertPending t ip with
    | (_, none) => (t, fcq, .err)
    | (t, some _) =>
      match fcq.push (.arpLookup ip) with
      -- the entry stays pending
      | none => (t, fcq, .err)
      | some fcq => (t, pendMbuf fcq ip p)
  | some b =>
    if (t.buckets b).pending then (t, pendMbuf fcq ip p)
    else (t, fcq, .ok (t.buckets b).mac)

/-- `process_rx_arp`. -/
def processRxArp (fcq : Fifo FcMsg) (pkt : ArpPkt) : Fifo FcMsg :=
  if pkt.oper = arpOperRequest then (fcq.push (.arpRxReq pkt.spa pkt.tpa pkt.sha)).getD fcq
  else if pkt.oper = arpOperReply then
    (fcq.push (.arpRxRep pkt.spa pkt.sha pkt.tpa pkt.tha)).getD fcq
  else fcq

/-! ## The system -/

/-- What stays fixed in a run. -/
structure ArpEnv where
  cfg : ArpConfig
  /-- `outer_remote_ip` of `infra_tx`. -/
  remoteIp : MbufTx → Option UInt32

structure ArpSys where
  ctl : ControlArp
  /-- `arp_table` of each core. -/
  tables : Nat → ArpTable
  /-- `fast_ctl_q` of each core. -/
  fcQs : Nat → Fifo FcMsg

inductive ArpAct
  /-- A core sends a packet: `infra_tx`. -/
  | tx (core : Nat) (p : MbufTx)
  /-- A core receives an ARP packet. -/
  | rxArp (core : Nat) (pkt : ArpPkt)
  /-- A core handles the next message of the control path; `txFull` when its
  transmit buffer is. -/
  | coreMsg (core : Nat) (txFull : Bool)
  /-- The control path handles the next message of a core. -/
  | ctlMsg (core : Nat) (after : UInt64)
  /-- One iteration of `poll_timeouts`. -/
  | timeout (clk : Clock)
  /-- The control path sends a core a message that is not about ARP. -/
  | other (core : Nat)

/-- What a step took from a queue. -/
inductive ArpObs
  | took (core : Nat) (msg : CfMsg)
  | handled (core : Nat) (msg : FcMsg)
  | quiet
  deriving DecidableEq, Repr

namespace ArpSys

/-- `ctl_fast_q` of a core. -/
def cfQ (s : ArpSys) (c : Nat) : Fifo CfMsg := s.ctl.ctlFastQs c

def setCfQ (s : ArpSys) (c : Nat) (q : Fifo CfMsg) : ArpSys :=
  { s with ctl := { s.ctl with ctlFastQs := setQ s.ctl.ctlFastQs c q } }

def setFcQ (s : ArpSys) (c : Nat) (q : Fifo FcMsg) : ArpSys :=
  { s with fcQs := setQ s.fcQs c q }

def setTable (s : ArpSys) (c : Nat) (t : ArpTable) : ArpSys :=
  { s with tables := fun c' => if c' = c then t else s.tables c' }

/-- The ARP part of `infra_tx`. -/
def infraTx (env : ArpEnv) (s : ArpSys) (c : Nat) (p : MbufTx) : ArpSys :=
  match env.remoteIp p with
  | none => s
  | some ip =>
    let (t, fcq, _) := processTxArp (s.tables c) (s.fcQs c) p ip
    (s.setTable c t).setFcQ c fcq

/-- One message at a core: `handle_arp_update`, `handle_mbuf`,
`handle_arp_tx_pkt`. Only core 0 has a transmit queue for ARP packets. -/
def coreHandle (env : ArpEnv) (s : ArpSys) (c : Nat) (txFull : Bool) : CfMsg → ArpSys
  | .arpUpdate ip mac => s.setTable c (arpInsert (s.tables c) ip mac).1
  | .mbufTx p => if txFull then s else s.infraTx env c p
  | .arpTxPkt =>
    if c = 0 then { s with ctl := { s.ctl with txq := (handleArpTxPkt s.ctl.txq).1 } } else s
  | .other => s

def step (env : ArpEnv) (s : ArpSys) : ArpAct → ArpSys × ArpObs
  | .tx c p => if c < env.cfg.fpCoresMax then (s.infraTx env c p, .quiet) else (s, .quiet)
  | .rxArp c pkt =>
    if c < env.cfg.fpCoresMax then (s.setFcQ c (processRxArp (s.fcQs c) pkt), .quiet)
    else (s, .quiet)
  | .coreMsg c txFull =>
    if c < env.cfg.fpCoresMax then
      match (s.cfQ c).head? with
      | none => (s, .quiet)
      | some msg => ((s.setCfQ c (s.cfQ c).pop).coreHandle env c txFull msg, .took c msg)
    else (s, .quiet)
  | .ctlMsg c after =>
    if c < env.cfg.fpCoresMax then
      match (s.fcQs c).head? with
      | none => (s, .quiet)
      | some msg =>
        match s.ctl.handle env.cfg c msg after with
        | none => (s, .quiet)
        | some ctl => ({ s with ctl }.setFcQ c (s.fcQs c).pop, .handled c msg)
    else (s, .quiet)
  | .timeout clk => ({ s with ctl := (s.ctl.pollTimeout env.cfg clk).getD s.ctl }, .quiet)
  | .other c =>
    match (s.cfQ c).push .other with
    | none => (s, .quiet)
    | some q => (s.setCfQ c q, .quiet)

/-- All tables, the buffer, the timers and the queues are empty. -/
structure Init (s : ArpSys) : Prop where
  table : ∃ mem, s.ctl.arpTable = ArpTable.arpTableInit mem
  tables : ∀ c, ∃ mem, s.tables c = ArpTable.arpTableInit mem
  buf : s.ctl.arpBuf = arpBufInit
  tomgr : ∃ mem, s.ctl.tomgr = Tomgr.tomgrInit mem
  cfQs : ∀ c, (s.cfQ c).items = []
  fcQs : ∀ c, (s.fcQs c).items = []

/-! ## What fits -/

/-- The control queue of every core has room. -/
def RoomAll (env : ArpEnv) (ctl : ControlArp) : Prop :=
  ∀ c, c < env.cfg.fpCoresMax → (ctl.ctlFastQs c).hasRoom = true

instance (env : ArpEnv) (ctl : ControlArp) : Decidable (RoomAll env ctl) := by
  unfold RoomAll
  infer_instance

/-- The message makes the control path resolve an address. -/
def Resolves (cfg : ArpConfig) (ctl : ControlArp) : FcMsg → Prop
  | .arpRxReq spa tpa _ =>
    tpa = cfg.ip ∧ ¬ Resolved ctl.arpTable spa ∧ arpBucket ctl.arpTable spa ≠ none
  | .arpRxRep spa _ tpa tha =>
    ControlArp.arpReplyTargetsLocal cfg tpa tha = true ∧ Pending ctl.arpTable spa
  | .arpLookup _ | .mbufPending _ _ => False

instance (cfg : ArpConfig) (ctl : ControlArp) (msg : FcMsg) : Decidable (Resolves cfg ctl msg) := by
  unfold Resolves
  split
  · infer_instance
  · infer_instance
  · infer_instance
  · infer_instance

end ArpSys

/-! ## A host that was just started -/

/-- All queues have `n` entries. -/
def freshArp (n : Nat) : ArpSys where
  ctl :=
    { arpTable := ArpTable.arpTableInit ⟨fun _ => ⟨0, false, ⟨0, 0, 0, 0, 0, 0⟩, none⟩⟩
      arpBuf := arpBufInit
      tomgr := Tomgr.tomgrInit ⟨fun _ => ⟨0, 0⟩, fun _ => ⟨.arp, 0, none, 0⟩, 0⟩
      ctlFastQs := fun _ => ⟨[], n⟩
      txq := ⟨[], n⟩ }
  tables := fun _ => ArpTable.arpTableInit ⟨fun _ => ⟨0, false, ⟨0, 0, 0, 0, 0, 0⟩, none⟩⟩
  fcQs := fun _ => ⟨[], n⟩

theorem freshArp_init (n : Nat) : (freshArp n).Init :=
  ⟨⟨_, rfl⟩, fun _ => ⟨_, rfl⟩, rfl, ⟨_, rfl⟩, fun _ => rfl, fun _ => rfl⟩

/-- The reply of host 5 to a request of this host. -/
def replyOf5 : ArpPkt := arpPkt ⟨2, 0, 0, 0, 0, 5⟩ ⟨2, 0, 0, 0, 0, 1⟩ 5 9 arpOperReply

end Chamelio.Arp
