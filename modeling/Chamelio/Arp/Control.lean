import Chamelio.Util.Tomgr
import Chamelio.Arp.Packets

/-!
# ARP on the control path (`control/control_arp.c`)

The control path keeps the ARP table, a timer for each address it has asked
for, and the buffer of packets that wait. `poll_fast` hands it the messages
of the cores one by one, `poll_timeouts` the timers that expired.

Mirroring notes: the fields of `struct control_context` that ARP uses, with
the control queue of every core and the transmit queue of core 0. A step that
dereferences `NULL` is `none`. `clock_tsc_after_us` is an argument; a read of
the clock and a later one are a `Clock`. `poll_timeouts` is one iteration of
its loop: `TO_ARP` is the only type of timer.
-/

namespace Chamelio.Arp

open Chamelio.Lib Chamelio.Util

/-- The configuration the control path reads. -/
structure ArpConfig where
  /-- `config->fp_cores_max`. -/
  fpCoresMax : Nat
  /-- `config->ip`. -/
  ip : UInt32
  /-- `nic_ctx->eth_addr`. -/
  ethAddr : EthAddr

/-- The part of `struct control_context` that ARP uses. -/
structure ControlArp where
  arpTable : ArpTable
  arpBuf : ArpBuf
  tomgr : Tomgr (Option Nat)
  /-- `ctl_fast_qs`. -/
  ctlFastQs : Nat → Fifo CfMsg
  /-- `txqs[0]`. -/
  txq : Fifo ArpPkt

/-- Two readings of the clock: the one a timer is compared with, and the
expiry of a timer armed afterwards. -/
structure Clock where
  now : UInt64
  after : UInt64
  mono : now ≤ after

namespace ControlArp

/-- `arp_request` on the queues of core 0; `false` for `-1`. -/
def request (cfg : ArpConfig) (ctx : ControlArp) (ip : UInt32) : ControlArp × Bool :=
  let (txq, cfq, ok) := arpRequest ctx.txq (ctx.ctlFastQs 0) ip cfg.ethAddr cfg.ip
  ({ ctx with txq, ctlFastQs := setQ ctx.ctlFastQs 0 cfq }, ok)

/-- `arp_reply` on the queues of core 0; its failure is only logged. -/
def reply (cfg : ArpConfig) (ctx : ControlArp) (mac : EthAddr) (ip : UInt32) : ControlArp :=
  let (txq, cfq, _) := arpReply ctx.txq (ctx.ctlFastQs 0) cfg.ethAddr cfg.ip mac ip
  { ctx with txq, ctlFastQs := setQ ctx.ctlFastQs 0 cfq }

/-- `ae->te = te`. -/
def setTe (ctx : ControlArp) (b : Nat) (te : Option Nat) : ControlArp :=
  { ctx with arpTable := ctx.arpTable.set b { ctx.arpTable.buckets b with te } }

/-- `control_arp_timeout`. -/
def controlArpTimeout (cfg : ArpConfig) (ctx : ControlArp) (te : Nat) (after : UInt64) :
    Option ControlArp :=
  match (ctx.tomgr.entries te).data with
  | none => none
  | some b =>
    if (ctx.arpTable.buckets b).pending = false then some ctx
    else
      let (ctx, ok) := ctx.request cfg (ctx.arpTable.buckets b).ip
      if ok = false then some ctx
      else
        match ctx.tomgr.tomgrInsert .arp after (some b) with
        | (_, none) => some ctx
        | (tomgr, some te) => some ({ ctx with tomgr }.setTe b (some te))

/-- `control_arp_lookup`. -/
def controlArpLookup (cfg : ArpConfig) (ctx : ControlArp) (ip : UInt32) (after : UInt64) :
    Option ControlArp :=
  match arpLookup ctx.arpTable ip with
  | some _ => some ctx
  | none =>
    let (arpTable, ae) := arpInsertPending ctx.arpTable ip
    let (ctx, ok) := { ctx with arpTable }.request cfg ip
    if ok = false then some ctx
    else
      match ctx.tomgr.tomgrInsert .arp after ae with
      | (_, none) => some ctx
      | (tomgr, some te) =>
        -- `ae->te = te`, with no check of `ae`
        match ae with
        | none => none
        | some b => some ({ ctx with tomgr }.setTe b (some te))

/-- `control_arp_mbuf`. A packet that finds no room is only logged. -/
def controlArpMbuf (ctx : ControlArp) (ip : UInt32) (p : MbufTx) (core : Nat) : ControlArp :=
  if Resolved ctx.arpTable ip then
    match (ctx.ctlFastQs core).push (.mbufTx p) with
    | none => ctx
    | some q => { ctx with ctlFastQs := setQ ctx.ctlFastQs core q }
  else
    match arpBufInsert ctx.arpBuf ip core p with
    | none => ctx
    | some arpBuf => { ctx with arpBuf }

/-- The loop of `update_arp_fast`, for `n` cores from core `i` on. -/
def updateLoop (ip : UInt32) (mac : EthAddr) : Nat → Nat → (Nat → Fifo CfMsg) →
    (Nat → Fifo CfMsg) × Bool
  | 0, _, qs => (qs, true)
  | n + 1, i, qs =>
    match (qs i).push (.arpUpdate ip mac) with
    | none => (qs, false)
    | some q => updateLoop ip mac n (i + 1) (setQ qs i q)

/-- `update_arp_fast`; `false` for `-1`. -/
def updateArpFast (cfg : ArpConfig) (ctx : ControlArp) (ip : UInt32) (mac : EthAddr) :
    ControlArp × Bool :=
  let (qs, ok) := updateLoop ip mac cfg.fpCoresMax 0 ctx.ctlFastQs
  ({ ctx with ctlFastQs := qs }, ok)

/-- `arp_buf_flush` on the control queues. -/
def flush (ctx : ControlArp) (ip : UInt32) : ControlArp :=
  let (arpBuf, qs) := arpBufFlush ctx.arpBuf ip ctx.ctlFastQs
  { ctx with arpBuf, ctlFastQs := qs }

/-- The cores are told of `ip`, and then its packets are handed back. The
second component is `false` when `update_arp_fast` failed. -/
def publish (cfg : ArpConfig) (ctx : ControlArp) (ip : UInt32) (mac : EthAddr) :
    ControlArp × Bool :=
  let (ctx, ok) := ctx.updateArpFast cfg ip mac
  if ok = false then (ctx, false) else (ctx.flush ip, true)

/-- `control_arp_req`. -/
def controlArpReq (cfg : ArpConfig) (ctx : ControlArp) (spa tpa : UInt32) (sha : EthAddr) :
    ControlArp :=
  if tpa ≠ cfg.ip then ctx
  else if Resolved ctx.arpTable spa then ctx.reply cfg sha spa
  else
    match arpInsert ctx.arpTable spa sha with
    | (_, none) => ctx
    | (arpTable, some _) =>
      let (ctx, ok) := { ctx with arpTable }.publish cfg spa sha
      if ok = false then ctx else ctx.reply cfg sha spa

/-- `arp_reply_targets_local`, with `mac_is_broadcast`. -/
def arpReplyTargetsLocal (cfg : ArpConfig) (tpa : UInt32) (tha : EthAddr) : Bool :=
  tpa = cfg.ip ∧ (tha = cfg.ethAddr ∨ tha = ethBroadcast)

/-- `control_arp_rep`. -/
def controlArpRep (cfg : ArpConfig) (ctx : ControlArp) (spa : UInt32) (sha : EthAddr)
    (tpa : UInt32) (tha : EthAddr) : Option ControlArp :=
  if arpReplyTargetsLocal cfg tpa tha = false then some ctx
  else if ¬ Pending ctx.arpTable spa then some ctx
  else
    match arpInsert ctx.arpTable spa sha with
    | (_, none) => none
    | (arpTable, some b) =>
      let ctx := { ctx with arpTable }
      let ctx :=
        match (ctx.arpTable.buckets b).te with
        | none => ctx
        | some te => { ctx with tomgr := (ctx.tomgr.tomgrCancel te).1 }.setTe b none
      some (ctx.publish cfg spa sha).1

/-- The cases of `poll_fast`: one message of a core. -/
def handle (cfg : ArpConfig) (ctx : ControlArp) (core : Nat) (msg : FcMsg) (after : UInt64) :
    Option ControlArp :=
  match msg with
  | .arpLookup ip => ctx.controlArpLookup cfg ip after
  | .mbufPending ip p => some (ctx.controlArpMbuf ip p core)
  | .arpRxReq spa tpa sha => some (ctx.controlArpReq cfg spa tpa sha)
  | .arpRxRep spa sha tpa tha => ctx.controlArpRep cfg spa sha tpa tha

/-- One iteration of `poll_timeouts`. -/
def pollTimeout (cfg : ArpConfig) (ctx : ControlArp) (clk : Clock) : Option ControlArp :=
  match ctx.tomgr.tomgrPeek with
  | none => some ctx
  | some te =>
    if (ctx.tomgr.entries te).timeout < clk.now then
      match ctx.controlArpTimeout cfg te clk.after with
      | none => none
      | some ctx => some { ctx with tomgr := ctx.tomgr.tomgrPop.1 }
    else some ctx

end ControlArp

end Chamelio.Arp
