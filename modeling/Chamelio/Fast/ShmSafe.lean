import Chamelio.Tcp.ShmUse
import Chamelio.Udp.ShmUse

/-!
# Do the handlers stay inside the guest's region?

A guest owns the memory its sockets, maps and queues lie in, and may write
anything there. The five handlers of the two protocols, in both copies, stay
inside the region and below `MAX_PROTO_QUEUES` where the numbers they are led
to and do not test are right before they start (`HandlerIn`): the rings and
queues of the socket a packet or an entry is for, the queues and the length
of a control packet, and the socket a UDP bump names. Everything else they
test themselves.
-/

namespace Chamelio.Fast

open Chamelio.Lib Chamelio.Control

inductive ProtoHandler
  | udpEventRx | udpEventDeq | tcpEventRx | tcpEventSched | tcpEventDeq
  deriving DecidableEq, Repr

/-- The uses of a handler, in order, until it returns. -/
def handlerUses (v : FastVersion) (h : ProtoHandler) (c : ShmCtx) : List ShmUse :=
  match h with
  | .udpEventRx => (Udp.eventRxNoted v c (Udp.udpCtxAt c)).uses
  | .udpEventDeq => (Udp.eventDeqNoted c (Udp.udpCtxAt c)).uses
  | .tcpEventRx => (Tcp.eventRxNoted v c (Tcp.tcpCtxAt v c)).uses
  | .tcpEventSched => (Tcp.eventSchedNoted v c (Tcp.tcpCtxAt v c)).uses
  | .tcpEventDeq => (Tcp.eventDeqNoted v c (Tcp.tcpCtxAt v c)).uses

/-- The computation that makes these uses is the handler: what it returns and
leaves is what the handler returns and leaves. -/
def UsesOfHandler (v : FastVersion) (h : ProtoHandler) (c : ShmCtx) : Prop :=
  match h with
  | .udpEventRx => (Udp.eventRxNoted v c (Udp.udpCtxAt c)).val = Udp.eventRxOf v (Udp.udpCtxAt c)
  | .udpEventDeq => (Udp.eventDeqNoted c (Udp.udpCtxAt c)).val = Udp.eventDeqOf v (Udp.udpCtxAt c)
  | .tcpEventRx =>
    (Tcp.eventRxNoted v c (Tcp.tcpCtxAt v c)).val = Tcp.eventRxOf v (Tcp.tcpCtxAt v c)
  | .tcpEventSched =>
    (Tcp.eventSchedNoted v c (Tcp.tcpCtxAt v c)).val = Tcp.eventSchedOf v (Tcp.tcpCtxAt v c)
  | .tcpEventDeq =>
    (Tcp.eventDeqNoted v c (Tcp.tcpCtxAt v c)).val = Tcp.eventDeqOf v (Tcp.tcpCtxAt v c)

theorem usesOfHandler (v : FastVersion) (h : ProtoHandler) (c : ShmCtx) : UsesOfHandler v h c := by
  cases h with
  | udpEventRx => exact Udp.eventRxNoted_val v c _
  | udpEventDeq => exact Udp.eventDeqNoted_val v c _
  | tcpEventRx => exact Tcp.eventRxNoted_val v c _
  | tcpEventSched => exact Tcp.eventSchedNoted_val v c _
  | tcpEventDeq => exact Tcp.eventDeqNoted_val v c _

/-- The numbers the handler takes without a test are right in the memory it
starts from. -/
def HandlerIn (v : FastVersion) (h : ProtoHandler) (c : ShmCtx) : Prop :=
  match h with
  | .udpEventRx => Udp.RxIn v c
  | .udpEventDeq => Udp.DeqIn c
  | .tcpEventRx => Tcp.RxIn v c
  | .tcpEventSched => Tcp.SchedIn v c
  | .tcpEventDeq => Tcp.DeqIn v c

/-- The maps of the protocol are as its library creates them. -/
def ProtoLayout (h : ProtoHandler) (c : ShmCtx) : Prop :=
  match h with
  | .udpEventRx | .udpEventDeq => Udp.Layout c
  | .tcpEventRx | .tcpEventSched | .tcpEventDeq => Tcp.Layout c

/-- **What a handler touches**: whatever else the guest wrote and whatever
packet arrived, where the numbers a handler does not test are right it stays
inside the region, with every queue index below `MAX_PROTO_QUEUES`. What it
writes on the way changes nothing it reads afterwards, so that these are the
uses the code makes. -/
theorem handler_stays_inside (v : FastVersion) (h : ProtoHandler) (c : ShmCtx)
    (hl : ProtoLayout h c) (hin : HandlerIn v h c) :
    UsesOfHandler v h c ∧ ∀ u ∈ handlerUses v h c, u.Inside c.shmLen ∧ u.Keeps c := by
  refine ⟨usesOfHandler v h c, ?_⟩
  cases h with
  | udpEventRx => exact Udp.eventRxNoted_good hl hin
  | udpEventDeq => exact Udp.eventDeqNoted_good hl hin
  | tcpEventRx => exact Tcp.eventRxNoted_good hl hin
  | tcpEventSched => exact Tcp.eventSchedNoted_good hl hin
  | tcpEventDeq => exact Tcp.eventDeqNoted_good hl hin

/-- A region with the maps of UDP behind its first kilobyte, and at its start a
receive bump whose `sock_id` is four times the byte `b`. -/
def bumpRxCtx (b : UInt8) : ShmCtx where
  pkt _ := 0
  pktRoom := fastL3PktRoom
  shm i := if i = 0 then 10 else if 1 ≤ i ∧ i < 5 then b else 0
  shmLen := 33554432
  core := 0
  ncores := 1
  maps i :=
    if i = 0 then ⟨0, 65534, 100, 6553400, 1024⟩
    else if i = 1 then ⟨1, 65534, 128, 8388352, 6554624⟩
    else ⟨2, 1, 4, 4, 14942976⟩
  equeues _ := ⟨0, 0, 1, 64⟩
  dqueues _ := ⟨0, 0, 1, 64⟩
  qeOff := 0
  sched := Util.schedInit
  clk := { readings := fun _ => 0, reads := 0, tscToUs := id, cyclesPerUs := 1 }

theorem bumpRxCtx_layout (b : UInt8) : Udp.Layout (bumpRxCtx b) where
  room := show 33554432 < 18446744073709551616 by decide
  ports := ⟨rfl, rfl, show 1024 + 65534 * 100 ≤ 33554432 by decide⟩
  behind := show 1024 + 65535 * 100 ≤ 33554432 by decide
  socks := ⟨65534, rfl, rfl, show 6554624 + 65534 * 128 ≤ 33554432 by decide⟩
  cfg := ⟨rfl, rfl, show 14942976 + 1 * 4 ≤ 33554432 by decide⟩

theorem handler_stays_inside_bump :
    UsesOfHandler .hand .udpEventDeq (bumpRxCtx 0) ∧
      ∀ u ∈ handlerUses .hand .udpEventDeq (bumpRxCtx 0),
        u.Inside (bumpRxCtx 0).shmLen ∧ u.Keeps (bumpRxCtx 0) := by
  refine handler_stays_inside .hand .udpEventDeq (bumpRxCtx 0) (bumpRxCtx_layout 0) ?_
  intro _
  show (0 : UInt16).toNat < maxFpCores → 0 < 65534
  decide

/-- A bump that names socket 4294967295: the handler reads and writes half a
terabyte behind the region. -/
theorem handler_leaves_region :
    Udp.Layout (bumpRxCtx 255) ∧ UsesOfHandler .hand .udpEventDeq (bumpRxCtx 255) ∧
      ShmUse.elem Udp.sockMap (6554624 + 4294967295 * 128) 128 ∈
        handlerUses .hand .udpEventDeq (bumpRxCtx 255) ∧
      ¬ ∀ u ∈ handlerUses .hand .udpEventDeq (bumpRxCtx 255), u.Inside (bumpRxCtx 255).shmLen := by
  have hmem : ShmUse.elem Udp.sockMap (6554624 + 4294967295 * 128) 128 ∈
      handlerUses .hand .udpEventDeq (bumpRxCtx 255) := by decide
  refine ⟨bumpRxCtx_layout 255, usesOfHandler _ _ _, hmem, fun h => ?_⟩
  have hin : 6554624 + 4294967295 * 128 + 128 ≤ 33554432 := h _ hmem
  omega

end Chamelio.Fast
