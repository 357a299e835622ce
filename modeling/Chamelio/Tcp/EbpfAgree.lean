import Chamelio.Tcp.EbpfProg
import Chamelio.Tcp.SlowCtx

/-!
# The two versions of the TCP handlers agree

Function by function, from the helpers up. Two things have to be seen. The
element of a map at the address one version computes from the size of its
type is the element at the address the other computes from the size the map
was created with. And `sched_add` has no failing path, so it does not matter
that one version tests its result.
-/

namespace Chamelio.Tcp.Ebpf

open Chamelio.Lib Chamelio.Util Chamelio.Pkt Chamelio.Fast

/-! ## Maps -/

/-- The helper's bound is `nelems`, the one the other copy tests. -/
theorem sockMapLookup_eq (ctx : TcpCtx) (sid : UInt32) :
    sockMapLookup ctx sid = Tcp.sockMapLookup ctx sid := by
  unfold sockMapLookup Tcp.sockMapLookup
  rw [elemAt_lookup (by decide)]

/-- A slot is compared with the same four numbers. -/
theorem sockFindSlot_eq (ctx : TcpCtx) (lip : UInt32) (lport : UInt16) (rip : UInt32)
    (rport : UInt16) (sid : UInt32) :
    sockFindSlot ctx lip lport rip rport sid = Tcp.sockFindSlot ctx lip lport rip rport sid := by
  unfold sockFindSlot
  rw [sockMapLookup_eq]
  rfl

/-- The bucket and its four slots are searched in the same order. -/
theorem sockFind_eq (ctx : TcpCtx) : sockFind ctx = Tcp.sockFind ctx := by
  unfold sockFind Tcp.sockFind
  dsimp only
  rw [elemAt_lookup (by decide)]
  simp only [sockFindSlot_eq]

/-- The helper finds the one element of the map. -/
theorem cfgAt_lookup (ctx : TcpCtx) :
    cfgAt ctx (ebpfMapLookup 0 tcpCtlCfgSize.toUInt64) = ctx.maps.cfg := by
  unfold cfgAt
  rw [if_pos (by decide)]

/-! ## Helpers -/

/-- `remit` is the same text in both copies. -/
theorem remit_eq (ctx : TcpCtx) (sid : Nat) : remit ctx sid = Tcp.remit ctx sid := rfl

theorem txSchedTsc_eq (ctx : TcpCtx) (sid : Nat) : txSchedTsc ctx sid = Tcp.txSchedTsc ctx sid := rfl

theorem txFillHdr_eq (ctx : TcpCtx) (sid : Nat) (hdrlen paylen : UInt32) :
    txFillHdr ctx sid hdrlen paylen = Tcp.txFillHdr ctx sid hdrlen paylen := rfl

theorem txFillAck_eq (ctx : TcpCtx) (sid : Nat) : txFillAck ctx sid = Tcp.txFillAck ctx sid := by
  unfold txFillAck Tcp.txFillAck
  rw [txFillHdr_eq]

theorem txCopyPayload_eq (ctx : TcpCtx) (sock : TcpSock) (hdrlen txBump : UInt32) :
    txCopyPayload ctx sock hdrlen txBump = Tcp.txCopyPayload ctx sock hdrlen txBump := rfl

theorem txSockSchedNext_eq (clk : Clock) (sock : TcpSock) (pktlen : UInt32) (nowTsc : UInt64) :
    txSockSchedNext clk sock pktlen nowTsc = Tcp.txSockSchedNext clk sock pktlen nowTsc := rfl

/-- One copy tests the map's address, the other what the helper returns. -/
theorem rxPuntCtl_eq (ctx : TcpCtx) : rxPuntCtl ctx = Tcp.rxPuntCtl ctx := by
  unfold rxPuntCtl
  rw [cfgAt_lookup]
  rfl

theorem sockTsRx_eq (ctx : TcpCtx) (sid : Nat) : sockTsRx ctx sid = Tcp.sockTsRx ctx sid := rfl

theorem rxSchedTx_eq (ctx : TcpCtx) (sid : Nat) (a b : UInt32) :
    rxSchedTx ctx sid a b = Tcp.rxSchedTx ctx sid a b := by
  unfold rxSchedTx Tcp.rxSchedTx
  rw [txSchedTsc_eq]

theorem rxCopyPayload_eq (ctx : TcpCtx) (sock : TcpSock) (src : Nat) (paylen : UInt32) :
    rxCopyPayload ctx sock src paylen = Tcp.rxCopyPayload ctx sock src paylen := rfl

/-- The slot the program asks for first is the one the entry goes to. -/
theorem rxEnqueueApp_eq (ctx : TcpCtx) (sid : Nat) (e : TcpQe) :
    rxEnqueueApp ctx sid e = Tcp.rxEnqueueApp ctx sid e := by
  unfold rxEnqueueApp Tcp.rxEnqueueApp ebpfQueueTail
  dsimp only
  cases hroom : (ctx.equeues (sockOf ctx sid).appBumpQid.toNat).hasRoom with
  | true => rfl
  | false =>
    unfold Fifo.push
    rw [hroom]
    rfl

/-- `sched_add` always succeeds. -/
theorem ctxSchedAdd_ret (ctx : TcpCtx) (id : UInt32) (priority : UInt64) (avail : UInt32) :
    (ctxSchedAdd ctx id priority avail).2 = 0 := by
  unfold ctxSchedAdd schedAdd
  dsimp only
  split
  · split
    · rfl
    · rfl
  · rfl

/-! ## Receiving -/

/-- What is done with the acknowledgement. -/
theorem rxAckStage_eq (ctx : TcpCtx) (sid : Nat) : rxAckStage ctx sid = Tcp.rxAckStage ctx sid := by
  unfold rxAckStage Tcp.rxAckStage
  dsimp only
  rw [sockTsRx_eq]

/-- The third duplicate rewinds in both. -/
theorem rxDupAck_eq (ctx : TcpCtx) (sid : Nat) (v : RxLocals) :
    rxDupAck ctx sid v = Tcp.rxDupAck ctx sid v := by
  unfold rxDupAck Tcp.rxDupAck
  dsimp only
  rw [remit_eq]

/-- What is stored, counted and announced. -/
theorem rxDeliver_eq (ctx : TcpCtx) (sid : Nat) (v : RxLocals) (hdrlen : UInt32) :
    rxDeliver ctx sid v hdrlen = Tcp.rxDeliver ctx sid v hdrlen := by
  unfold rxDeliver rxEnqueueRxBump
  simp only [rxCopyPayload_eq, rxEnqueueApp_eq, txFillAck_eq]
  rfl

/-- Duplicates and gaps are answered alike. -/
theorem rxPayload_eq (ctx : TcpCtx) (sid : Nat) (v : RxLocals) (hdrlen : UInt32) (fr : Bool) :
    rxPayload ctx sid v hdrlen fr = Tcp.rxPayload ctx sid v hdrlen fr := by
  unfold rxPayload Tcp.rxPayload
  rw [txFillAck_eq, rxDeliver_eq]

/-- The bump for acknowledged bytes. -/
theorem rxAppTxBump_eq (ctx : TcpCtx) (sid : Nat) (v : RxLocals) :
    rxAppTxBump ctx sid v = Tcp.rxAppTxBump ctx sid v := by
  unfold rxAppTxBump Tcp.rxAppTxBump rxEnqueueTxBump Tcp.rxEnqueueTxBump
  rw [rxEnqueueApp_eq]

/-- An accepted segment, from its acknowledgement to its answer. -/
theorem rxSegment_eq (ctx : TcpCtx) (sid : Nat) (hdrlen : UInt32) :
    rxSegment ctx sid hdrlen = Tcp.rxSegment ctx sid hdrlen := by
  unfold rxSegment Tcp.rxSegment
  rw [rxAckStage_eq]
  obtain ⟨ctx₁, v⟩ := Tcp.rxAckStage ctx sid
  dsimp only
  rw [rxAppTxBump_eq]
  cases Tcp.rxAppTxBump ctx₁ sid v with
  | none => rfl
  | some ctx₂ =>
    dsimp only
    rw [rxDupAck_eq, rxSchedTx_eq, rxPayload_eq]

/-- The branch of an established socket. -/
theorem rxEstablished_eq (ctx : TcpCtx) (sid : Nat) :
    rxEstablished ctx sid = Tcp.rxEstablished ctx sid := by
  unfold rxEstablished Tcp.rxEstablished
  dsimp only
  rw [txFillAck_eq, rxSegment_eq]

/-- **`event_rx` is `tcp_event_rx`.** -/
theorem eventRx_eq (ctx : TcpCtx) : eventRx ctx = tcpEventRx ctx := by
  unfold eventRx
  simp only [rxPuntCtl_eq, sockFind_eq, rxEstablished_eq]
  rfl

/-! ## Sending -/

/-- A segment with payload. -/
theorem txSendPayload_eq (ctx : TcpCtx) (sid : Nat) (hdrlen txBump : UInt32) (nowTsc : UInt64) :
    txSendPayload ctx sid hdrlen txBump nowTsc =
      Tcp.txSendPayload ctx sid hdrlen txBump nowTsc := by
  unfold txSendPayload Tcp.txSendPayload
  dsimp only
  rw [txCopyPayload_eq, txSockSchedNext_eq, txSchedTsc_eq, ctxSchedAdd_ret]
  rfl

/-- The socket at the head of the scheduler. -/
theorem txSend_eq (ctx : TcpCtx) (sid : Nat) (nowTsc : UInt64) :
    txSend ctx sid nowTsc = Tcp.txSend ctx sid nowTsc := by
  unfold txSend Tcp.txSend
  dsimp only
  rw [txFillHdr_eq, txSendPayload_eq]

/-- **`event_sched` is `tcp_event_sched`.** -/
theorem eventSched_eq (ctx : TcpCtx) : eventSched ctx = tcpEventSched ctx := by
  unfold eventSched
  simp only [sockMapLookup_eq, txSend_eq]
  rfl

/-! ## Queue entries -/

/-- Bytes the application added. -/
theorem deqHandleBumpTx_eq (ctx : TcpCtx) (sockId : UInt32) (txPort : UInt16)
    (txIp txAvail : UInt32) : deqHandleBumpTx ctx sockId txPort txIp txAvail =
      Tcp.deqHandleBumpTx ctx sockId txPort txIp txAvail := by
  unfold deqHandleBumpTx Tcp.deqHandleBumpTx
  simp only [sockMapLookup_eq, txSchedTsc_eq, ctxSchedAdd_ret]
  rfl

/-- Bytes the application took. -/
theorem deqHandleBumpRx_eq (ctx : TcpCtx) (sockId rxHead : UInt32) :
    deqHandleBumpRx ctx sockId rxHead = Tcp.deqHandleBumpRx ctx sockId rxHead := by
  unfold deqHandleBumpRx
  simp only [sockMapLookup_eq, txFillAck_eq]
  rfl

/-- A control packet of the slow path. -/
theorem deqHandleCtlTx_eq (ctx : TcpCtx) : deqHandleCtlTx ctx = Tcp.deqHandleCtlTx ctx := by
  unfold deqHandleCtlTx
  rw [cfgAt_lookup]
  rfl

/-- A retransmission the slow path asks for. -/
theorem deqHandleRetransmit_eq (ctx : TcpCtx) (sockId txSeq txPending : UInt32) :
    deqHandleRetransmit ctx sockId txSeq txPending =
      Tcp.deqHandleRetransmit ctx sockId txSeq txPending := by
  unfold deqHandleRetransmit
  simp only [sockMapLookup_eq, remit_eq]
  rfl

/-- **`event_deq` is `tcp_event_deq`.** -/
theorem eventDeq_eq (ctx : TcpCtx) : eventDeq ctx = tcpEventDeq ctx := by
  unfold eventDeq tcpEventDeq
  cases ctx.qe with
  | bumpChamTx sockId txPort txIp txAvail =>
    dsimp only
    rw [deqHandleBumpTx_eq]
  | bumpChamRx sockId rxHead =>
    dsimp only
    rw [deqHandleBumpRx_eq]
  | ctlTx => rw [deqHandleCtlTx_eq]
  | txRetransmit sockId txSeq txPending =>
    dsimp only
    rw [deqHandleRetransmit_eq]
  | ctlTxPkt _ => rfl
  | ctlRx => rfl
  | ctlRxPkt _ _ => rfl
  | bumpAppTx _ _ => rfl
  | bumpAppRx _ _ _ _ => rfl
  | unknown => rfl

/-! ## The programs -/

/-- The socket map and the flow map as `tcp_init` creates them. -/
structure InitMaps (ctx : TcpCtx) (socks flows : ChamMap) : Prop where
  sockNelems : socks.nelems = maxSockets ∧ ctx.maps.sockNelems = socks.nelems
  sockElsize : socks.elsize = tcpSockSize.toNat
  flowNelems : flows.nelems = tcpFlowBuckets.toNat ∧ ctx.maps.buckNelems = flows.nelems
  flowElsize : flows.elsize = tcpFlowBucketSize.toNat

/-- Both versions find an element of the map at the same address, which is
the one of the element with that index. -/
def SameElements (m : ChamMap) (size : UInt32) : Prop :=
  ∀ id : UInt32, id.toNat < m.nelems →
    m.lookup id = ebpfMapLookup id.toUInt64 size.toUInt64 ∧ elemAt size (m.lookup id) = id.toNat

/-- A map created with the size of its type, below 4 GiB. -/
theorem sameElements_of_sized {m : ChamMap} {size : UInt32} (hpos : 0 < size.toNat)
    (hel : m.elsize = size.toNat) (hsize : m.nelems * size.toNat < 4294967296) :
    SameElements m size := by
  intro id hid
  have hsame := ChamMap.lookup_eq_ebpf hid hel hsize
  refine ⟨hsame, ?_⟩
  rw [hsame]
  exact elemAt_lookup hpos id

/-- **The hand-written handlers and the eBPF program agree**: in every
context with the maps of `tcp_init` they return the same and leave the same
behind. -/
theorem handlers_agree {ctx : TcpCtx} {socks flows : ChamMap} (h : InitMaps ctx socks flows) :
    (eventRx ctx = tcpEventRx ctx ∧ eventSched ctx = tcpEventSched ctx ∧
      eventDeq ctx = tcpEventDeq ctx) ∧
    SameElements socks tcpSockSize ∧ SameElements flows tcpFlowBucketSize := by
  refine ⟨⟨eventRx_eq ctx, eventSched_eq ctx, eventDeq_eq ctx⟩, ?_, ?_⟩
  · refine sameElements_of_sized (by decide) h.sockElsize ?_
    rw [h.sockNelems.1]
    decide
  · refine sameElements_of_sized (by decide) h.flowElsize ?_
    rw [h.flowNelems.1]
    decide

/-- An established socket with ten bytes to send, in maps of full size. -/
def sizedCtx : TcpCtx :=
  let ctx := oneSockCtx
    { TcpSock.zero with
      state := .established, txLen := 4096, txAvail := 10, txRemoteAvail := 1000 } 4
  { ctx with
    sched := (schedAdd schedInit 0 0 10).1
    maps := { ctx.maps with sockNelems := maxSockets, buckNelems := tcpFlowBuckets.toNat } }

/-- Both send the ten bytes. -/
theorem handlers_agree_ten :
    (tcpEventSched sizedCtx).2 = .ok 62 ∧ eventSched sizedCtx = tcpEventSched sizedCtx := by
  have hmaps : InitMaps sizedCtx
      { id := 1, nelems := maxSockets, elsize := 192, size := 192 * 65534, off := 0 }
      { id := 2, nelems := 4096, elsize := 16, size := 65536, off := 0 } :=
    ⟨⟨rfl, rfl⟩, rfl, ⟨rfl, rfl⟩, rfl⟩
  exact ⟨by decide +kernel, (handlers_agree hmaps).1.2.1⟩

end Chamelio.Tcp.Ebpf
