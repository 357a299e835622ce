import Chamelio.Fast.ShmUse
import Chamelio.Tcp.EbpfAgree
import Chamelio.Tcp.HdrParse
import Chamelio.Tcp.Wakeup

/-!
# The shared memory the TCP handlers touch

Both copies of `tcp_event_rx`, `tcp_event_sched` and `tcp_event_deq`, run on
the bytes of the guest's memory, with a note of every use they make of it.
Without the notes they are the handlers themselves. They test every socket id
against the socket map and the bucket against its map. What they do not test
are rings, the ids of queues, and the lengths of headers they copy to and
from the entries of packet queues: a header of 120 bytes goes into an entry
of 64, and a queued packet is read as far as its own length field says.
`RxIn`, `SchedIn` and `DeqIn` say what these have to be before the handler
starts.

Mirroring notes:
- A state byte that is no `enum tcp_sock_state` is treated like
  `FIN_WAIT1`: neither closed nor established.
- The head of a queue is read as a packet whatever its type byte, as the
  source does, with as many bytes as its length field says.
- The copies differ in how they find an element: by the size in the map, or
  by the size of the type.
-/

namespace Chamelio.Tcp

open Chamelio.Lib Chamelio.Util Chamelio.Pkt Chamelio.Fast

/-- `enum tcp_sock_state` of a byte. -/
def sockStateAt (b : UInt8) : SockState :=
  if b = 0 then .closed
  else if b = 1 then .init
  else if b = 2 then .listen
  else if b = 3 then .synSent
  else if b = 4 then .synRecv
  else if b = 5 then .acceptPending
  else if b = 6 then .established
  else .finWait1

/-- `struct tcp_sock` at `o`. -/
def tcpSockAt (m : Nat → UInt8) (o : Nat) : TcpSock where
  id := u32At m o
  opaquePtr := u64At m (o + 4)
  core := u16At m (o + 12)
  appBumpQid := u16At m (o + 14)
  localIp := u32At m (o + 16)
  remoteIp := u32At m (o + 20)
  localPort := u16At m (o + 24)
  remotePort := u16At m (o + 26)
  state := sockStateAt (m (o + 28))
  reuport := m (o + 29) != 0
  appId := m (o + 30)
  ctxId := m (o + 31)
  flags := m (o + 32)
  rxLen := u32At m (o + 37)
  rxAvail := u32At m (o + 41)
  rxHead := u32At m (o + 45)
  rxOff := u64At m (o + 49)
  txLen := u32At m (o + 57)
  txAvail := u32At m (o + 61)
  txHead := u32At m (o + 65)
  txOff := u64At m (o + 69)
  txSeq := u32At m (o + 77)
  txPending := u32At m (o + 81)
  rxSeq := u32At m (o + 85)
  txRemoteAvail := u32At m (o + 89)
  rxDupackCnt := m (o + 101)
  ccAcks := u32At m (o + 102)
  ccAckb := u32At m (o + 106)
  ccEcnb := u32At m (o + 110)
  ccDrops := u32At m (o + 114)
  ccRate := u32At m (o + 118)
  tsRecent := u32At m (o + 122)
  rttEst := u32At m (o + 126)
  txReadyTsc := u64At m (o + 130)
  recoveryActive := m (o + 138) != 0
  recoveryEndSeq := u32At m (o + 139)

/-- `SOCK_MAP`, `SID_BUCK_MAP`, `CFG_MAP`. -/
def sockMap : Nat := 1
def sidBuckMap : Nat := 2
def cfgMap : Nat := 3

/-- An element, by the size in the map (`hand`) or the size of the type. -/
def tcpElem (v : FastVersion) (c : ShmCtx) (i id size : Nat) : Nat :=
  match v with
  | .hand => (c.maps i).off + (c.maps i).lookup (UInt32.ofNat id)
  | .ebpf => elemOff c i id size

def sockAddr (v : FastVersion) (c : ShmCtx) (sid : Nat) : Nat := tcpElem v c sockMap sid 192
def buckAddr (v : FastVersion) (c : ShmCtx) (hash : Nat) : Nat := tcpElem v c sidBuckMap hash 16
def cfgAddr (c : ShmCtx) : Nat := elemOff c cfgMap 0 68

/-- The fields of a bump or a signal entry at `o`; 18 to 22 are the types
`TCP_QUEUE_BUMP_CHAM_TX`, `_RX`, `TCP_QUEUE_CTL_TX` and, behind the packets,
`TCP_QUEUE_TX_RETRANSMIT`. -/
def tcpQeAt (m : Nat → UInt8) (o : Nat) : TcpQe :=
  if m o = 18 then
    .bumpChamTx (u32At m (o + 1)) (u16At m (o + 5)) (u32At m (o + 7)) (u32At m (o + 11))
  else if m o = 19 then .bumpChamRx (u32At m (o + 1)) (u32At m (o + 5))
  else if m o = 20 then .ctlTx
  else if m o = 22 then .txRetransmit (u32At m (o + 1)) (u32At m (o + 5)) (u32At m (o + 9))
  else .unknown

/-- The packet in the entry at `o`, as many bytes as are looked at. -/
def ctlPktAt (m : Nat → UInt8) (o : Nat) : List UInt8 :=
  (List.range (max 40 (be16 m (o + 3)).toNat)).map fun i => m (o + 1 + i)

/-- The context a handler runs on. -/
def tcpCtxAt (v : FastVersion) (c : ShmCtx) : TcpCtx :=
  c.toCtx
    { socks := fun i => tcpSockAt c.shm (sockAddr v c i)
      sockNelems := (c.maps sockMap).nelems
      buckets := fun h i => u32At c.shm (buckAddr v c h + 4 * i)
      buckNelems := (c.maps sidBuckMap).nelems
      cfg := some
        { fastSlowSigQids := fun i => u16At c.shm (cfgAddr c + 2 * i)
          fastSlowPktQids := fun i => u16At c.shm (cfgAddr c + 32 + 2 * i)
          slowFastPktQid := u16At c.shm (cfgAddr c + 66) } }
    (tcpQeAt c.shm c.qeOff)
    fun e => if c.shm e = 0 then none else some (.ctlTxPkt (ctlPktAt c.shm e))

/-! ## Receiving -/

/-- The test on one slot of a bucket: a socket it names is looked at. -/
def sockFindSlotNoted (v : FastVersion) (c : ShmCtx) (ctx : TcpCtx) (lip : UInt32) (lport : UInt16)
    (rip : UInt32) (rport : UInt16) (sid : UInt32) : Noted ShmUse (Option Nat) :=
  if sid = idInvalid then pure none
  else
    match sockMapLookup ctx sid with
    | none => pure none
    | some i => do
      note [.bytes (sockAddr v c i) 192]
      pure (sockFindSlot ctx lip lport rip rport sid)

/-- `sock_find`: the bucket of the flow, and its sockets up to the one found. -/
def sockFindNoted (v : FastVersion) (c : ShmCtx) (ctx : TcpCtx) : Noted ShmUse (Option Nat) :=
  let rip := ipSrc ctx.pkt
  let lip := ipDst ctx.pkt
  let rport := tcpSrc ctx.pkt
  let lport := tcpDest ctx.pkt
  let hash := sockHash lip lport rip rport % tcpFlowBuckets
  if hash.toNat ≥ ctx.maps.buckNelems then pure none
  else do
    note [.bytes (buckAddr v c hash.toNat) 16]
    Noted.findSome? (fun i =>
      sockFindSlotNoted v c ctx lip lport rip rport (ctx.maps.buckets hash.toNat i))
      (List.range tcpFlowBucketSlots)

/-- `rx_punt_ctl`: the queue ids, the type bytes of both entries, and the
header, `core` and `ready` where both are free. -/
def rxPuntCtlNoted (c : ShmCtx) (ctx : TcpCtx) : Noted ShmUse (TcpCtx × Ret) :=
  match ctx.maps.cfg with
  | none => pure (ctx, .error .other)
  | some cfg =>
    if ctx.core.toNat ≥ maxFpCores then pure (ctx, .error .other)
    else do
      let pktQid := (cfg.fastSlowPktQids ctx.core.toNat).toNat
      let sigQid := (cfg.fastSlowSigQids ctx.core.toNat).toNat
      let pe := tailEntry c ctx.equeues pktQid
      let se := tailEntry c ctx.equeues sigQid
      note [.bytes (cfgAddr c) 68, .queue pktQid, .bytes pe 1]
      if !(ctx.equeues pktQid).hasRoom then pure (ctx, .error .other)
      else do
        note [.queue sigQid, .bytes se 1]
        if !(ctx.equeues sigQid).hasRoom then pure (ctx, .error .other)
        else
          let hdrlen := rxGetHdrlen ctx.pkt
          if !isPaylenValid ctx hdrlen 0 then pure (ctx, .error .other)
          else do
            note [.bytes (pe + 1) hdrlen.toNat, .bytes (pe + 53) 2, .bytes (se + 1) 1]
            let bytes := (List.range hdrlen.toNat).map ctx.pkt
            match (ctx.equeues pktQid).push (.ctlRxPkt bytes ctx.core) with
            | none => pure (ctx, .error .other)
            | some q =>
              let ctx := ctx.setQueue pktQid q
              match (ctx.equeues sigQid).push .ctlRx with
              | none => pure (ctx, .error .other)
              | some q => pure (ctx.setQueue sigQid q, .ok 0)

/-- An entry for the socket's application. -/
def rxEnqueueAppNoted (c : ShmCtx) (ctx : TcpCtx) (sid : Nat) (e : TcpQe) :
    Noted ShmUse (Option TcpCtx) := do
  noteTail c ctx.equeues (sockOf ctx sid).appBumpQid.toNat 32
  pure (rxEnqueueApp ctx sid e)

/-- The copy of the unseen bytes into the ring, and the bump about them. -/
def rxDeliverNoted (c : ShmCtx) (ctx : TcpCtx) (sid : Nat) (v : RxLocals) (hdrlen : UInt32) :
    Noted ShmUse (TcpCtx × Ret) :=
  let paylen := (rxGetPaylen ctx.pkt).toUInt32 - v.overlap
  let sock := sockOf ctx sid
  let rxBump := rxGetRxBump sock paylen
  if rxBump > 0 then do
    let tail := wrapAdd sock.rxHead sock.rxAvail sock.rxLen
    note (ringUses .payload sock.rxOff sock.rxLen tail rxBump (rxBump - (sock.rxLen - tail)).toNat)
    let ctx := rxCopyPayload ctx sock (hdrlen.toNat + v.overlap.toNat) rxBump
    let ctx := setSock ctx sid (rxSockBumpRx sock rxBump)
    match ← rxEnqueueAppNoted c ctx sid
        (.bumpAppRx (sockOf ctx sid).opaquePtr (tcpSrc ctx.pkt) (ipSrc ctx.pkt) rxBump) with
    | none => pure (ctx, .error .appBump)
    | some ctx => pure (txFillAck ctx sid)
  else pure (txFillAck ctx sid)

/-- From the first test on the payload on. -/
def rxPayloadNoted (c : ShmCtx) (ctx : TcpCtx) (sid : Nat) (v : RxLocals) (hdrlen : UInt32)
    (shouldFastRemit : Bool) : Noted ShmUse (TcpCtx × Ret) :=
  if v.isPayloadDup && !shouldFastRemit then pure (txFillAck ctx sid)
  else if v.isOutOfOrder then pure (txFillAck ctx sid)
  else if !isPaylenValid ctx hdrlen (rxGetPaylen ctx.pkt).toUInt32 then pure (txFillAck ctx sid)
  else rxDeliverNoted c ctx sid v hdrlen

/-- The bump about acknowledged bytes. -/
def rxAppTxBumpNoted (c : ShmCtx) (ctx : TcpCtx) (sid : Nat) (v : RxLocals) :
    Noted ShmUse (Option TcpCtx) :=
  if v.isAckDup then pure (some ctx)
  else rxEnqueueAppNoted c ctx sid (.bumpAppTx (sockOf ctx sid).opaquePtr v.ackBump)

/-- `tcp_event_rx` on an ESTABLISHED socket, after the header check. -/
def rxSegmentNoted (c : ShmCtx) (ctx : TcpCtx) (sid : Nat) (hdrlen : UInt32) :
    Noted ShmUse (TcpCtx × Ret) := do
  let (ctx, v) := rxAckStage ctx sid
  match ← rxAppTxBumpNoted c ctx sid v with
  | none => pure (ctx, .error .appBump)
  | some ctx =>
    let (ctx, shouldFastRemit) := rxDupAck ctx sid v
    let ctx := rxSchedTx ctx sid v.availBefore v.availAfter
    if v.isAckOnly then pure (ctx, .ok 0) else rxPayloadNoted c ctx sid v hdrlen shouldFastRemit

/-- `tcp_event_rx` from the ESTABLISHED socket on. -/
def rxEstablishedNoted (v : FastVersion) (c : ShmCtx) (ctx : TcpCtx) (sid : Nat) :
    Noted ShmUse (TcpCtx × Ret) := do
  note [.elem sockMap (sockAddr v c sid) 192]
  let ctx := rxMarkCe ctx sid
  let hdrlen := rxGetHdrlen ctx.pkt
  if !isPaylenValid ctx hdrlen 0 then pure (txFillAck ctx sid) else rxSegmentNoted c ctx sid hdrlen

/-- `tcp_event_rx`. -/
def eventRxNoted (v : FastVersion) (c : ShmCtx) (ctx : TcpCtx) : Noted ShmUse (TcpCtx × Ret) :=
  if !isPktlenValid ctx then pure (ctx, .error .other)
  else if !rxIsIp ctx.pkt then pure (ctx, .error .other)
  else if rxIsFlagsCtl ctx.pkt then rxPuntCtlNoted c ctx
  else do
    match ← sockFindNoted v c ctx with
    | none => pure (ctx, .error .other)
    | some sid =>
      if (sockOf ctx sid).state ≠ .established then rxPuntCtlNoted c ctx
      else rxEstablishedNoted v c ctx sid

/-! ## Sending -/

/-- The payload half of `tcp_event_sched`: the copy out of the ring. -/
def txSendPayloadNoted (ctx : TcpCtx) (sid : Nat) (hdrlen txBump : UInt32) (nowTsc : UInt64) :
    Noted ShmUse (TcpCtx × Ret) := do
  let sock := sockOf ctx sid
  let txPos := wrapAdd sock.txHead sock.txPending sock.txLen
  note (ringUses .bytes sock.txOff sock.txLen txPos txBump (txBump - (sock.txLen - txPos)).toNat)
  pure (txSendPayload ctx sid hdrlen txBump nowTsc)

/-- `tcp_event_sched` from the socket on. -/
def txSendNoted (v : FastVersion) (c : ShmCtx) (ctx : TcpCtx) (sid : Nat) (nowTsc : UInt64) :
    Noted ShmUse (TcpCtx × Ret) :=
  if !isPktlenValid ctx then pure (ctx, .error .other)
  else do
    note [.elem sockMap (sockAddr v c sid) 192]
    let hdrlen := txGetHdrlen
    let txBump := txGetTxBump (sockOf ctx sid) (txGetMaxPaylen ctx hdrlen)
    if !isPaylenValid ctx hdrlen txBump then pure (ctx, .error .other)
    else
      let ctx := txFillHdr ctx sid hdrlen txBump
      if txBump > 0 then txSendPayloadNoted ctx sid hdrlen txBump nowTsc
      else pure (ctx, .ok (hdrlen + txBump).toNat)

/-- `tcp_event_sched`. The scheduler is the core's own. -/
def eventSchedNoted (v : FastVersion) (c : ShmCtx) (ctx : TcpCtx) : Noted ShmUse (TcpCtx × Ret) :=
  match schedHead ctx.sched with
  | none => pure (ctx, .ok 0)
  | some entry =>
    let (nowTsc, clk) := clockRdtsc ctx.clk
    let ctx := { ctx with clk }
    if entry.priority > nowTsc then pure (ctx, .ok 0)
    else
      let (sched, ret) := schedPop ctx.sched
      let ctx := { ctx with sched }
      if ret ≠ 0 then pure (ctx, .error .other)
      else
        match sockMapLookup ctx entry.id with
        | none => pure (ctx, .error .other)
        | some sid => txSendNoted v c ctx sid nowTsc

/-! ## Queues -/

/-- The handlers of entries that name a socket: `run` is the handler, which
touches that socket and nothing else of the memory. -/
def sockEntryNoted (v : FastVersion) (c : ShmCtx) (ctx : TcpCtx) (sockId : UInt32)
    (run : TcpCtx × Ret) : Noted ShmUse (TcpCtx × Ret) :=
  match sockMapLookup ctx sockId with
  | none => pure run
  | some sid => do
    note [.elem sockMap (sockAddr v c sid) 192]
    pure run

/-- `deq_handle_ctl_tx`: the queue id, the type byte of the packet's entry,
its headers, and the packet as far as its length says. -/
def deqHandleCtlTxNoted (c : ShmCtx) (ctx : TcpCtx) : Noted ShmUse (TcpCtx × Ret) :=
  if !isQeCtlValid ctx then pure (ctx, .error .other)
  else
    match ctx.maps.cfg with
    | none => pure (ctx, .error .other)
    | some cfg => do
      let qid := cfg.slowFastPktQid.toNat
      let ctlPktQ := ctx.dqueues qid
      let e := ctlPktQ.off + ctlPktQ.head
      note [.bytes (cfgAddr c) 68, .queue qid, .bytes e 1]
      match ctlPktQ.q.head? with
      | some (.ctlTxPkt bytes) =>
        if !isQePktValid ctx e then pure (ctx, .error .other)
        else do
          note [.bytes (e + 1) 40]
          let hdrlen := ipLen fun i => bytes.getD i 0
          if !isPaylenValid ctx hdrlen.toUInt32 0 then pure (ctx, .error .other)
          else do
            note [.bytes (e + 1) hdrlen.toNat]
            pure (deqHandleCtlTx ctx)
      | _ => pure (ctx, .error .other)

/-- `tcp_event_deq`, with the entry it was given. -/
def eventDeqNoted (v : FastVersion) (c : ShmCtx) (ctx : TcpCtx) : Noted ShmUse (TcpCtx × Ret) :=
  if !isQeValid ctx then pure (ctx, .error .other)
  else do
    note [.bytes ctx.qeOff 32]
    match ctx.qe with
    | .bumpChamTx sockId txPort txIp txAvail =>
      sockEntryNoted v c ctx sockId (deqHandleBumpTx ctx sockId txPort txIp txAvail)
    | .bumpChamRx sockId rxHead =>
      sockEntryNoted v c ctx sockId (deqHandleBumpRx ctx sockId rxHead)
    | .ctlTx => deqHandleCtlTxNoted c ctx
    | .txRetransmit sockId txSeq txPending =>
      sockEntryNoted v c ctx sockId (deqHandleRetransmit ctx sockId txSeq txPending)
    | _ => pure (ctx, .error .other)

/-! ## Without the notes -/

/-- The handlers of either copy. -/
def eventRxOf (v : FastVersion) : TcpCtx → TcpCtx × Ret :=
  match v with
  | .hand => tcpEventRx
  | .ebpf => Ebpf.eventRx

def eventSchedOf (v : FastVersion) : TcpCtx → TcpCtx × Ret :=
  match v with
  | .hand => tcpEventSched
  | .ebpf => Ebpf.eventSched

def eventDeqOf (v : FastVersion) : TcpCtx → TcpCtx × Ret :=
  match v with
  | .hand => tcpEventDeq
  | .ebpf => Ebpf.eventDeq

section

variable (v : FastVersion) (c : ShmCtx) (ctx : TcpCtx)

theorem sockFindSlotNoted_val (lip : UInt32) (lport : UInt16) (rip : UInt32) (rport : UInt16)
    (sid : UInt32) :
    (sockFindSlotNoted v c ctx lip lport rip rport sid).val =
      sockFindSlot ctx lip lport rip rport sid := by
  unfold sockFindSlotNoted
  split
  · next hsid =>
    unfold sockFindSlot
    rw [if_pos hsid]
    rfl
  · next hsid =>
    cases hl : sockMapLookup ctx sid with
    | none =>
      unfold sockFindSlot
      rw [if_neg hsid, hl]
      rfl
    | some i => rfl

theorem sockFindNoted_val : (sockFindNoted v c ctx).val = sockFind ctx := by
  unfold sockFindNoted sockFind
  dsimp only
  split
  · rfl
  · rw [Noted.val_bind, Noted.val_findSome?]
    simp only [sockFindSlotNoted_val]

theorem rxPuntCtlNoted_val : (rxPuntCtlNoted c ctx).val = rxPuntCtl ctx := by
  unfold rxPuntCtlNoted rxPuntCtl
  cases ctx.maps.cfg with
  | none => rfl
  | some cfg =>
    dsimp only
    split
    · rfl
    rw [Noted.val_bind]
    split
    · rfl
    rw [Noted.val_bind]
    split
    · rfl
    split
    · rfl
    rw [Noted.val_bind]
    generalize Fifo.push _ (TcpQe.ctlRxPkt _ _) = pushed
    cases pushed with
    | none => rfl
    | some q =>
      dsimp only
      generalize Fifo.push _ TcpQe.ctlRx = pushed
      cases pushed <;> rfl

theorem rxEnqueueAppNoted_val (sid : Nat) (e : TcpQe) :
    (rxEnqueueAppNoted c ctx sid e).val = rxEnqueueApp ctx sid e := rfl

theorem rxDeliverNoted_val (sid : Nat) (w : RxLocals) (hdrlen : UInt32) :
    (rxDeliverNoted c ctx sid w hdrlen).val = rxDeliver ctx sid w hdrlen := by
  unfold rxDeliverNoted rxDeliver
  dsimp only
  split
  · rw [Noted.val_bind, Noted.val_bind, rxEnqueueAppNoted_val]
    unfold rxEnqueueRxBump
    generalize rxEnqueueApp _ sid _ = queued
    cases queued <;> rfl
  · rfl

theorem rxPayloadNoted_val (sid : Nat) (w : RxLocals) (hdrlen : UInt32) (fr : Bool) :
    (rxPayloadNoted c ctx sid w hdrlen fr).val = rxPayload ctx sid w hdrlen fr := by
  unfold rxPayloadNoted rxPayload
  split
  · rfl
  split
  · rfl
  split
  · rfl
  exact rxDeliverNoted_val c ctx sid w hdrlen

theorem rxAppTxBumpNoted_val (sid : Nat) (w : RxLocals) :
    (rxAppTxBumpNoted c ctx sid w).val = rxAppTxBump ctx sid w := by
  unfold rxAppTxBumpNoted rxAppTxBump
  split <;> rfl

theorem rxSegmentNoted_val (sid : Nat) (hdrlen : UInt32) :
    (rxSegmentNoted c ctx sid hdrlen).val = rxSegment ctx sid hdrlen := by
  unfold rxSegmentNoted rxSegment
  dsimp only
  rw [Noted.val_bind, rxAppTxBumpNoted_val]
  cases rxAppTxBump (rxAckStage ctx sid).1 sid (rxAckStage ctx sid).2 with
  | none => rfl
  | some ctx' =>
    dsimp only
    split
    · rfl
    · exact rxPayloadNoted_val c _ sid _ hdrlen _

theorem rxEstablishedNoted_val (sid : Nat) :
    (rxEstablishedNoted v c ctx sid).val = rxEstablished ctx sid := by
  unfold rxEstablishedNoted rxEstablished
  rw [Noted.val_bind]
  dsimp only
  split
  · rfl
  · exact rxSegmentNoted_val c _ sid _

/-- **The noted `tcp_event_rx` is `tcp_event_rx`**, in both copies. -/
theorem eventRxNoted_val : (eventRxNoted v c ctx).val = eventRxOf v ctx := by
  have hrx : eventRxOf v ctx = tcpEventRx ctx := by
    cases v with
    | hand => rfl
    | ebpf => exact Ebpf.eventRx_eq ctx
  rw [hrx]
  unfold eventRxNoted tcpEventRx
  split
  · rfl
  split
  · rfl
  split
  · exact rxPuntCtlNoted_val c ctx
  rw [Noted.val_bind, sockFindNoted_val]
  cases sockFind ctx with
  | none => rfl
  | some sid =>
    dsimp only
    split
    · exact rxPuntCtlNoted_val c ctx
    · exact rxEstablishedNoted_val v c ctx sid

theorem txSendPayloadNoted_val (sid : Nat) (hdrlen txBump : UInt32) (nowTsc : UInt64) :
    (txSendPayloadNoted ctx sid hdrlen txBump nowTsc).val =
      txSendPayload ctx sid hdrlen txBump nowTsc := rfl

theorem txSendNoted_val (sid : Nat) (nowTsc : UInt64) :
    (txSendNoted v c ctx sid nowTsc).val = txSend ctx sid nowTsc := by
  unfold txSendNoted txSend
  split
  · rfl
  rw [Noted.val_bind]
  dsimp only
  generalize txGetTxBump (sockOf ctx sid) (txGetMaxPaylen ctx txGetHdrlen) = txBump
  split
  · rfl
  split
  · exact txSendPayloadNoted_val _ sid _ _ _
  · rfl

/-- **The noted `tcp_event_sched` is `tcp_event_sched`**, in both copies. -/
theorem eventSchedNoted_val : (eventSchedNoted v c ctx).val = eventSchedOf v ctx := by
  have hsched : eventSchedOf v ctx = tcpEventSched ctx := by
    cases v with
    | hand => rfl
    | ebpf => exact Ebpf.eventSched_eq ctx
  rw [hsched]
  unfold eventSchedNoted tcpEventSched
  cases schedHead ctx.sched with
  | none => rfl
  | some entry =>
    dsimp only
    split
    · rfl
    split
    · rfl
    cases sockMapLookup _ entry.id with
    | none => rfl
    | some sid => exact txSendNoted_val v c _ sid _

theorem sockEntryNoted_val (sockId : UInt32) (run : TcpCtx × Ret) :
    (sockEntryNoted v c ctx sockId run).val = run := by
  unfold sockEntryNoted
  split <;> rfl

theorem deqHandleCtlTxNoted_val : (deqHandleCtlTxNoted c ctx).val = deqHandleCtlTx ctx := by
  unfold deqHandleCtlTxNoted
  split
  · next hqe =>
    unfold deqHandleCtlTx
    rw [if_pos hqe]
    rfl
  · next hqe =>
    cases hcfg : ctx.maps.cfg with
    | none =>
      unfold deqHandleCtlTx
      rw [if_neg hqe, hcfg]
      rfl
    | some cfg =>
      rw [Noted.val_bind]
      dsimp only
      have hdeq := deqHandleCtlTx.eq_def ctx
      rw [if_neg hqe, hcfg] at hdeq
      dsimp only at hdeq
      split
      · next bytes hhead =>
        rw [hhead] at hdeq
        dsimp only at hdeq
        split
        · next hv =>
          rw [if_pos hv] at hdeq
          exact hdeq.symm
        · next hv =>
          rw [if_neg hv] at hdeq
          rw [Noted.val_bind]
          split
          · next hp =>
            rw [if_pos hp] at hdeq
            exact hdeq.symm
          · rfl
      · next hne =>
        rw [hdeq]
        split
        · next bytes hhead => exact absurd hhead (hne bytes)
        · rfl

/-- **The noted `tcp_event_deq` is `tcp_event_deq`**, in both copies. -/
theorem eventDeqNoted_val : (eventDeqNoted v c ctx).val = eventDeqOf v ctx := by
  have hdeq : eventDeqOf v ctx = tcpEventDeq ctx := by
    cases v with
    | hand => rfl
    | ebpf => exact Ebpf.eventDeq_eq ctx
  rw [hdeq]
  unfold eventDeqNoted tcpEventDeq
  split
  · rfl
  rw [Noted.val_bind]
  generalize ctx.qe = qe
  cases qe with
  | ctlTx => exact deqHandleCtlTxNoted_val c ctx
  | bumpChamTx sockId txPort txIp txAvail => exact sockEntryNoted_val v c ctx sockId _
  | bumpChamRx sockId rxHead => exact sockEntryNoted_val v c ctx sockId _
  | txRetransmit sockId txSeq txPending => exact sockEntryNoted_val v c ctx sockId _
  | ctlTxPkt | ctlRx | ctlRxPkt | bumpAppTx | bumpAppRx | unknown => rfl

end

/-! ## What the numbers of the guest have to be -/

/-- The queue ids of `struct tcp_ctl_cfg`. -/
def sigQid (c : ShmCtx) : Nat := (u16At c.shm (cfgAddr c + 2 * c.core.toNat)).toNat
def pktQid (c : ShmCtx) : Nat := (u16At c.shm (cfgAddr c + 32 + 2 * c.core.toNat)).toNat
def ctlPktQid (c : ShmCtx) : Nat := (u16At c.shm (cfgAddr c + 66)).toNat

/-- The queues a control packet is punted through, and where both have room
the length of its header. -/
structure PuntIn (v : FastVersion) (c : ShmCtx) : Prop where
  pkt : QueueIn c (c.equeues (pktQid c)) (pktQid c) 64
  sig : ((tcpCtxAt v c).equeues (pktQid c)).hasRoom = true →
    QueueIn c (c.equeues (sigQid c)) (sigQid c) 32
  hdrlen : ((tcpCtxAt v c).equeues (pktQid c)).hasRoom = true →
    ((tcpCtxAt v c).equeues (sigQid c)).hasRoom = true → (rxGetHdrlen c.pkt).toNat ≤ 63

/-- The segment has bytes the socket takes: unseen ones, in order, in a packet
as long as it says, and there is room for some. -/
structure TakesBytes (ctx : TcpCtx) (sock : TcpSock) : Prop where
  paylen : rxIsAckOnly ctx.pkt = false
  unseen : rxIsPayloadDup ctx.pkt sock = false
  inOrder : rxIsOutOfOrder ctx.pkt sock = false
  valid : isPaylenValid ctx (rxGetHdrlen ctx.pkt) (rxGetPaylen ctx.pkt).toUInt32 = true
  room : rxGetRxBump sock
    ((rxGetPaylen ctx.pkt).toUInt32 - rxGetPayloadOverlap ctx.pkt sock) > 0

/-- The numbers of the socket a segment is for: its application's queue where
a bump is due, its ring where bytes are stored. -/
structure SegmentIn (c : ShmCtx) (ctx : TcpCtx) (sock : TcpSock) : Prop where
  queue : sock.txSeq ≠ tcpAckno ctx.pkt ∨ TakesBytes ctx sock →
    QueueIn c (c.equeues sock.appBumpQid.toNat) sock.appBumpQid.toNat 32
  ring : sock.txSeq = tcpAckno ctx.pkt ∨ (ctx.equeues sock.appBumpQid.toNat).hasRoom = true →
    TakesBytes ctx sock → PayloadRingIn c sock.rxOff sock.rxLen sock.rxHead sock.rxAvail

/-- What a received packet leads `tcp_event_rx` to. -/
def RxIn (v : FastVersion) (c : ShmCtx) : Prop :=
  let ctx := tcpCtxAt v c
  isPktlenValid ctx = true → rxIsIp c.pkt = true →
    (rxIsFlagsCtl c.pkt = true → c.core.toNat < maxFpCores → PuntIn v c) ∧
      ∀ sid, rxIsFlagsCtl c.pkt = false → sockFind ctx = some sid →
        ((sockOf ctx sid).state ≠ .established → c.core.toNat < maxFpCores → PuntIn v c) ∧
          ((sockOf ctx sid).state = .established →
            isPaylenValid ctx (rxGetHdrlen c.pkt) 0 = true → SegmentIn c ctx (sockOf ctx sid))

/-- The transmit ring of the socket that is due, where it has bytes to send. -/
def SchedIn (v : FastVersion) (c : ShmCtx) : Prop :=
  let ctx := tcpCtxAt v c
  ∀ entry sid, schedHead c.sched = some entry → entry.priority ≤ (clockRdtsc c.clk).1 →
    sockMapLookup ctx entry.id = some sid → isPktlenValid ctx = true →
      let sock := sockOf ctx sid
      let txBump := txGetTxBump sock (txGetMaxPaylen ctx txGetHdrlen)
      isPaylenValid ctx txGetHdrlen txBump = true → txBump > 0 →
        RingIn c.shmLen sock.txOff sock.txLen sock.txHead sock.txPending ∧
          txBump.toNat ≤ sock.txLen.toNat

/-- The queue of the slow path's packets, and the length of the one that is
sent. -/
structure CtlIn (v : FastVersion) (c : ShmCtx) : Prop where
  queue : QueueIn c (c.dqueues (ctlPktQid c)) (ctlPktQid c) 64
  hdrlen : c.shm (c.dqueues (ctlPktQid c)).entry ≠ 0 →
    isPaylenValid (tcpCtxAt v c) (be16 c.shm ((c.dqueues (ctlPktQid c)).entry + 3)).toUInt32 0 =
      true →
    (be16 c.shm ((c.dqueues (ctlPktQid c)).entry + 3)).toNat ≤ 63

/-- An entry that sends a control packet leads to one of that length. The
other entries name a socket, which is tested. -/
def DeqIn (v : FastVersion) (c : ShmCtx) : Prop :=
  isQeValid (tcpCtxAt v c) = true → tcpQeAt c.shm c.qeOff = .ctlTx → CtlIn v c

/-- The maps as the library creates them; their sizes are 32-bit numbers. -/
structure Layout (c : ShmCtx) : Prop where
  room : c.shmLen < addrSpace
  socks : ∃ n, MapIn c sockMap 192 n ∧ n * 192 < 4294967296
  buckets : ∃ n, MapIn c sidBuckMap 16 n ∧ n * 16 < 4294967296
  cfg : MapIn c cfgMap 68 1

/-! ## The handlers stay inside -/

section

variable {v : FastVersion} {c : ShmCtx}

/-- With the size of the type in the map both copies find the same element. -/
theorem tcpElem_eq {i size n id : Nat} (h : MapIn c i size n) (hs : n * size < 4294967296)
    (hid : id < n) (hsize : 0 < size) : tcpElem v c i id size = elemOff c i id size := by
  cases v with
  | ebpf => rfl
  | hand =>
    have hle : id ≤ id * size := Nat.le_mul_of_pos_right id hsize
    have hlt : id * size < 4294967296 :=
      Nat.lt_of_le_of_lt (Nat.mul_le_mul_right size (Nat.le_of_lt hid)) hs
    unfold tcpElem ChamMap.lookup elemOff
    dsimp only
    rw [h.elsize, UInt32.toNat_ofNat_of_lt' (Nat.lt_of_le_of_lt hle hlt), Nat.mod_eq_of_lt hlt]

theorem Layout.sock (h : Layout c) {sid : Nat} (hs : sid < (c.maps sockMap).nelems) :
    (ShmUse.elem sockMap (sockAddr v c sid) 192).Good c := by
  obtain ⟨n, hm, hn⟩ := h.socks
  rw [hm.nelems] at hs
  unfold sockAddr
  rw [tcpElem_eq hm hn hs (by decide)]
  exact hm.elem hs

theorem Layout.bucket (h : Layout c) {hash : Nat} (hs : hash < (c.maps sidBuckMap).nelems) :
    (ShmUse.bytes (buckAddr v c hash) 16).Good c := by
  obtain ⟨n, hm, hn⟩ := h.buckets
  rw [hm.nelems] at hs
  unfold buckAddr
  rw [tcpElem_eq hm hn hs (by decide)]
  exact hm.bytes hs

theorem Layout.config (h : Layout c) : (ShmUse.bytes (cfgAddr c) 68).Good c :=
  h.cfg.bytes Nat.zero_lt_one

theorem not_bnot_true {b : Bool} (h : ¬ (!b) = true) : b = true := by
  simpa using h

/-- A socket that is found by its id is one of the map. -/
theorem sockMapLookup_lt {ctx : TcpCtx} {sid : UInt32} {i : Nat}
    (h : sockMapLookup ctx sid = some i) : i < ctx.maps.sockNelems := by
  unfold sockMapLookup at h
  split at h
  · cases h
  · next hlt =>
    cases h
    exact Nat.not_le.mp hlt

/-- The length field of a packet in an entry. -/
theorem ctlPktAt_len (m : Nat → UInt8) (o : Nat) :
    ipLen (fun i => (ctlPktAt m o).getD i 0) = be16 m (o + 3) := by
  have hbyte : ∀ i, i < 40 → (ctlPktAt m o).getD i 0 = m (o + 1 + i) := by
    intro i hi
    unfold ctlPktAt
    rw [List.getD_eq_getElem?_getD, List.getElem?_map, List.getElem?_range (by omega)]
    rfl
  unfold ipLen be16
  dsimp only
  rw [hbyte 2 (by decide), hbyte (2 + 1) (by decide)]

/-- The search for a socket tests all it looks at. -/
theorem sockFindNoted_good (hl : Layout c) :
    (sockFindNoted v c (tcpCtxAt v c)).All (ShmUse.Good c) := by
  unfold sockFindNoted
  dsimp only
  split
  · exact Noted.all_pure _
  · next hb =>
    refine Noted.all_bind.mpr ⟨all_note_one.mpr (hl.bucket (Nat.not_le.mp hb)), ?_⟩
    refine Noted.all_findSome? fun i _ => ?_
    unfold sockFindSlotNoted
    split
    · exact Noted.all_pure _
    · split
      · exact Noted.all_pure _
      · next hfind =>
        have hsock := hl.sock (v := v) (sockMapLookup_lt hfind)
        exact Noted.all_bind.mpr
          ⟨all_note_one.mpr (ShmUse.good_bytes (.inr hsock.1)), Noted.all_pure _⟩

/-- Punting stays inside where queues and header length are right. -/
theorem rxPuntCtlNoted_good (hl : Layout c) (hin : c.core.toNat < maxFpCores → PuntIn v c) :
    (rxPuntCtlNoted c (tcpCtxAt v c)).All (ShmUse.Good c) := by
  have hcfg : ∃ cfg, (tcpCtxAt v c).maps.cfg = some cfg ∧
      (cfg.fastSlowPktQids (tcpCtxAt v c).core.toNat).toNat = pktQid c ∧
      (cfg.fastSlowSigQids (tcpCtxAt v c).core.toNat).toNat = sigQid c := ⟨_, rfl, rfl, rfl⟩
  obtain ⟨cfg, hcfg, hpq, hsq⟩ := hcfg
  unfold rxPuntCtlNoted
  rw [hcfg]
  dsimp only
  rw [hpq, hsq]
  split
  · exact Noted.all_pure _
  next hcore =>
  obtain ⟨hpkt, hsig, hhdr⟩ := hin (Nat.not_le.mp hcore)
  refine Noted.all_bind.mpr ⟨all_note_cons.mpr ⟨hl.config, all_note_cons.mpr
    ⟨⟨hpkt.qid, trivial⟩, all_note_one.mpr (hpkt.tail (o := 0) (by decide))⟩⟩, ?_⟩
  split
  · exact Noted.all_pure _
  next hroom =>
  have hroom : ((tcpCtxAt v c).equeues (pktQid c)).hasRoom = true := not_bnot_true hroom
  have hsig := hsig hroom
  refine Noted.all_bind.mpr ⟨all_note_cons.mpr
    ⟨⟨hsig.qid, trivial⟩, all_note_one.mpr (hsig.tail (o := 0) (by decide))⟩, ?_⟩
  split
  · exact Noted.all_pure _
  next hroom' =>
  have hhdr : (rxGetHdrlen (tcpCtxAt v c).pkt).toNat ≤ 63 := hhdr hroom (not_bnot_true hroom')
  split
  · exact Noted.all_pure _
  refine Noted.all_bind.mpr ⟨all_note_cons.mpr ⟨hpkt.tail (by omega), all_note_cons.mpr
    ⟨hpkt.tail (by decide), all_note_one.mpr (hsig.tail (by decide))⟩⟩, ?_⟩
  split
  · exact Noted.all_pure _
  · split <;> exact Noted.all_pure _

/-- The copy stays in the ring, since no more is taken than is free. -/
theorem rxDeliverNoted_good {ctx : TcpCtx} {sid : Nat} {w : RxLocals} {hdrlen : UInt32}
    (hl : Layout c)
    (hin : rxGetRxBump (sockOf ctx sid) ((rxGetPaylen ctx.pkt).toUInt32 - w.overlap) > 0 →
      PayloadRingIn c (sockOf ctx sid).rxOff (sockOf ctx sid).rxLen (sockOf ctx sid).rxHead
        (sockOf ctx sid).rxAvail ∧
      QueueIn c (c.equeues (sockOf ctx sid).appBumpQid.toNat)
        (sockOf ctx sid).appBumpQid.toNat 32) :
    (rxDeliverNoted c ctx sid w hdrlen).All (ShmUse.Good c) := by
  unfold rxDeliverNoted
  dsimp only
  split
  · next hpos =>
    obtain ⟨hring, hqueue⟩ := hin hpos
    have hfree : ((sockOf ctx sid).rxLen - (sockOf ctx sid).rxAvail).toNat ≤
        (sockOf ctx sid).rxLen.toNat := by
      rw [UInt32.toNat_sub_of_le _ _ (UInt32.le_iff_toNat_le.mpr hring.count)]
      omega
    have hn : (rxGetRxBump (sockOf ctx sid)
        ((rxGetPaylen ctx.pkt).toUInt32 - w.overlap)).toNat ≤ (sockOf ctx sid).rxLen.toNat := by
      unfold rxGetRxBump
      dsimp only
      split
      · exact hfree
      · next hge => exact Nat.le_trans (UInt32.le_iff_toNat_le.mp (UInt32.not_lt.mp hge)) hfree
    refine Noted.all_bind.mpr ⟨hring.good hl.room hn, ?_⟩
    generalize hctx : setSock _ sid (rxSockBumpRx (sockOf ctx sid) _) = ctx'
    have hqid : (sockOf ctx' sid).appBumpQid = (sockOf ctx sid).appBumpQid := by
      rw [← hctx, sockOf_setSock]
      rfl
    refine Noted.all_bind.mpr ⟨?_, ?_⟩
    · refine Noted.all_bind.mpr ⟨?_, Noted.all_pure _⟩
      rw [hqid]
      exact noteTail_good hqueue (by decide)
    · split <;> exact Noted.all_pure _
  · exact Noted.all_pure _

/-- Only a segment without payload rewinds its socket. -/
theorem rxDupAck_payload {ctx : TcpCtx} {sid : Nat} {w : RxLocals} (h : w.isAckOnly = false) :
    (rxDupAck ctx sid w).2 = false := by
  unfold rxDupAck
  simp [h]

/-- The bump about acknowledged bytes, and from it to the end. -/
theorem rxSegmentNoted_good {ctx : TcpCtx} {sid : Nat} (hl : Layout c)
    (hin : SegmentIn c ctx (sockOf ctx sid)) :
    (rxSegmentNoted c ctx sid (rxGetHdrlen ctx.pkt)).All (ShmUse.Good c) := by
  have hstage : SameRing (sockOf ctx sid) (sockOf (rxAckStage ctx sid).1 sid) :=
    (sameRing_acked _ _).trans (SameRing.of_bare (rxAckStage_spec ctx sid).1.sock)
  have hdup : (rxAckStage ctx sid).2.isAckDup =
    ((sockOf ctx sid).txSeq == tcpAckno ctx.pkt) := rfl
  have honly : (rxAckStage ctx sid).2.isAckOnly = rxIsAckOnly ctx.pkt := rfl
  have hunseen : (rxAckStage ctx sid).2.isPayloadDup =
    rxIsPayloadDup ctx.pkt (sockOf ctx sid) := rfl
  have horder : (rxAckStage ctx sid).2.isOutOfOrder =
    rxIsOutOfOrder ctx.pkt (sockOf ctx sid) := rfl
  have hover : (rxAckStage ctx sid).2.overlap =
    rxGetPayloadOverlap ctx.pkt (sockOf ctx sid) := rfl
  have hbump := (rxAckBump_spec ctx sid).2
  unfold rxSegmentNoted
  dsimp only
  generalize (rxAckStage ctx sid).2 = w at hdup honly hunseen horder hover hbump ⊢
  refine Noted.all_bind.mpr ⟨?_, ?_⟩
  · unfold rxAppTxBumpNoted
    split
    · exact Noted.all_pure _
    · next hnew =>
      rw [hdup, beq_iff_eq] at hnew
      refine Noted.all_bind.mpr ⟨?_, Noted.all_pure _⟩
      rw [hstage.qid]
      exact noteTail_good (hin.queue (.inl hnew)) (by decide)
  · rw [rxAppTxBumpNoted_val]
    cases henq : rxAppTxBump (rxAckStage ctx sid).1 sid w with
    | none => exact Noted.all_pure _
    | some ctxB =>
      obtain ⟨q, hAQ, hpkt, hqB⟩ := hbump ctxB henq
      obtain ⟨s₁, hs₁, hq⟩ := rxRewind_spec w hqB
      dsimp only
      split
      · exact Noted.all_pure _
      next hpay =>
      have hpay : w.isAckOnly = false := Bool.eq_false_iff.mpr hpay
      have hring₁ : SameRing (sockOf ctx sid) s₁ := by
        rcases hs₁ with rfl | ⟨-, rfl⟩
        · exact sameRing_acked _ _
        · exact (sameRing_acked _ _).trans (sameRing_rewound _)
      have hpkt' : (rxSchedTx (rxDupAck ctxB sid w).1 sid w.availBefore w.availAfter).pkt =
          ctx.pkt := by
        rw [rxSchedTx_pkt, rxDupAck_pkt, hpkt]
      generalize rxSchedTx (rxDupAck ctxB sid w).1 sid w.availBefore w.availAfter = ctx' at hq hpkt' ⊢
      have hsame : SameRing (sockOf ctx sid) (sockOf ctx' sid) := by
        have hbare := hq.socks sid
        rw [sockOf_withSockQueue] at hbare
        exact hring₁.trans (SameRing.of_bare hbare)
      have hroom : ctx'.pktRoom = ctx.pktRoom := hq.pktRoom
      have hvalid : ∀ a b, isPaylenValid ctx' a b = isPaylenValid ctx a b := by
        intro a b
        unfold isPaylenValid
        rw [hroom]
      unfold rxPayloadNoted
      rw [rxDupAck_payload hpay, hpkt', hvalid]
      split
      · exact Noted.all_pure _
      next hnew =>
      split
      · exact Noted.all_pure _
      next hseq =>
      split
      · exact Noted.all_pure _
      next hval =>
      refine rxDeliverNoted_good hl ?_
      rw [hpkt', hover, hsame.off, hsame.len, hsame.head, hsame.avail, hsame.qid]
      rw [rxGetRxBump_congr hsame]
      intro hpos
      have htakes : TakesBytes ctx (sockOf ctx sid) :=
        ⟨by rw [← honly]; exact hpay, by rw [← hunseen]; simpa using hnew,
          by rw [← horder]; simpa using hseq, not_bnot_true hval, hpos⟩
      refine ⟨hin.ring ?_ htakes, hin.queue (.inr htakes)⟩
      rcases hAQ with ⟨heq, -⟩ | ⟨-, hpush⟩
      · exact .inl heq
      · right
        unfold appQueue Fifo.push at hpush
        split at hpush
        · next h => exact h
        · cases hpush

/-- Marking a packet changes no number of the socket that matters here. -/
theorem SegmentIn.marked {ctx : TcpCtx} {sid : Nat} (h : SegmentIn c ctx (sockOf ctx sid)) :
    SegmentIn c (rxMarkCe ctx sid) (sockOf (rxMarkCe ctx sid) sid) := by
  have hmark : ∃ flags, sockOf (rxMarkCe ctx sid) sid = { sockOf ctx sid with flags } := by
    unfold rxMarkCe
    split
    · exact ⟨_, sockOf_setSock _ _ _⟩
    · exact ⟨_, rfl⟩
  obtain ⟨flags, hsock⟩ := hmark
  have htakes : TakesBytes (rxMarkCe ctx sid) (sockOf (rxMarkCe ctx sid) sid) →
      TakesBytes ctx (sockOf ctx sid) := by
    rintro ⟨hpay, hnew, hseq, hval, hpos⟩
    rw [rxMarkCe_pkt, hsock] at *
    refine ⟨hpay, hnew, hseq, ?_, hpos⟩
    unfold isPaylenValid at hval ⊢
    rw [(quiet_rxMarkCe ctx sid).pktRoom] at hval
    exact hval
  refine ⟨fun hq => ?_, fun hack hst => ?_⟩
  · have hq := h.queue (hq.imp ?_ htakes)
    · rw [hsock]
      exact hq
    · rw [hsock, rxMarkCe_pkt]
      exact id
  · have hring := h.ring ?_ (htakes hst)
    · rw [hsock]
      exact hring
    · rw [hsock, rxMarkCe_pkt, (quiet_rxMarkCe ctx sid).equeues] at hack
      exact hack

/-- **Receiving stays inside** where the queues and the ring it is led to are
right. -/
theorem eventRxNoted_good (hl : Layout c) (hin : RxIn v c) :
    (eventRxNoted v c (tcpCtxAt v c)).All (ShmUse.Good c) := by
  unfold eventRxNoted
  split
  · exact Noted.all_pure _
  next hlen =>
  split
  · exact Noted.all_pure _
  next hip =>
  have hip : rxIsIp c.pkt = true := not_bnot_true hip
  obtain ⟨hctl, hsock⟩ := hin (not_bnot_true hlen) hip
  split
  · next hflags => exact rxPuntCtlNoted_good hl (hctl hflags)
  next hflags =>
  refine Noted.all_bind.mpr ⟨sockFindNoted_good hl, ?_⟩
  rw [sockFindNoted_val]
  cases hfind : sockFind (tcpCtxAt v c) with
  | none => exact Noted.all_pure _
  | some sid =>
    obtain ⟨hother, hest⟩ := hsock sid (Bool.eq_false_iff.mpr hflags) hfind
    dsimp only
    split
    · next hstate => exact rxPuntCtlNoted_good hl (hother hstate)
    next hstate =>
    unfold rxEstablishedNoted
    refine Noted.all_bind.mpr ⟨all_note_one.mpr (hl.sock (sockFind_lt hfind)), ?_⟩
    dsimp only
    split
    · exact Noted.all_pure _
    next hval =>
    refine rxSegmentNoted_good hl (SegmentIn.marked (hest (not_not.mp hstate) ?_))
    rw [rxMarkCe_pkt] at hval
    unfold isPaylenValid at hval ⊢
    rw [(quiet_rxMarkCe _ sid).pktRoom] at hval
    exact not_bnot_true hval

/-- A scheduled segment stays inside where the transmit ring does. -/
theorem txSendNoted_good {ctx : TcpCtx} {sid : Nat} {nowTsc : UInt64} (hl : Layout c)
    (hsid : sid < (c.maps sockMap).nelems)
    (hin : isPktlenValid ctx = true →
      isPaylenValid ctx txGetHdrlen
        (txGetTxBump (sockOf ctx sid) (txGetMaxPaylen ctx txGetHdrlen)) = true →
      txGetTxBump (sockOf ctx sid) (txGetMaxPaylen ctx txGetHdrlen) > 0 →
        RingIn c.shmLen (sockOf ctx sid).txOff (sockOf ctx sid).txLen (sockOf ctx sid).txHead
          (sockOf ctx sid).txPending ∧
        (txGetTxBump (sockOf ctx sid) (txGetMaxPaylen ctx txGetHdrlen)).toNat ≤
          (sockOf ctx sid).txLen.toNat) :
    (txSendNoted v c ctx sid nowTsc).All (ShmUse.Good c) := by
  unfold txSendNoted
  split
  · exact Noted.all_pure _
  next hlen =>
  refine Noted.all_bind.mpr ⟨all_note_one.mpr (hl.sock hsid), ?_⟩
  dsimp only
  have hin := hin (not_bnot_true hlen)
  generalize txGetTxBump (sockOf ctx sid) (txGetMaxPaylen ctx txGetHdrlen) = txBump at hin ⊢
  split
  · exact Noted.all_pure _
  next hval =>
  split
  · next hpos =>
    obtain ⟨hring, hn⟩ := hin (not_bnot_true hval) hpos
    have hbare := (quiet_txFillHdr ctx sid txGetHdrlen txBump).socks sid
    have hoff : (sockOf (txFillHdr ctx sid txGetHdrlen txBump) sid).txOff =
      (sockOf ctx sid).txOff := (congrArg TcpSock.txOff hbare :)
    have htxlen : (sockOf (txFillHdr ctx sid txGetHdrlen txBump) sid).txLen =
      (sockOf ctx sid).txLen := (congrArg TcpSock.txLen hbare :)
    have hhead : (sockOf (txFillHdr ctx sid txGetHdrlen txBump) sid).txHead =
      (sockOf ctx sid).txHead := (congrArg TcpSock.txHead hbare :)
    have hpend : (sockOf (txFillHdr ctx sid txGetHdrlen txBump) sid).txPending =
      (sockOf ctx sid).txPending := (congrArg TcpSock.txPending hbare :)
    unfold txSendPayloadNoted
    dsimp only
    rw [hoff, htxlen, hhead, hpend]
    refine Noted.all_bind.mpr ⟨?_, Noted.all_pure _⟩
    exact ringRead_good hl.room hring.fits hring.short hring.wrapAdd_le hn fun hgt =>
      (ring_rest_le hring.short hring.wrapAdd_le hn hgt).1
  · exact Noted.all_pure _

/-- **Sending stays inside** where the transmit ring of the socket that is due
does. -/
theorem eventSchedNoted_good (hl : Layout c) (hin : SchedIn v c) :
    (eventSchedNoted v c (tcpCtxAt v c)).All (ShmUse.Good c) := by
  have hsched : (tcpCtxAt v c).sched = c.sched := rfl
  have hclk : (tcpCtxAt v c).clk = c.clk := rfl
  unfold eventSchedNoted
  rw [hsched, hclk]
  cases hhead : schedHead c.sched with
  | none => exact Noted.all_pure _
  | some entry =>
    dsimp only
    split
    · exact Noted.all_pure _
    next hdue =>
    split
    · exact Noted.all_pure _
    generalize hctx : ({ tcpCtxAt v c with
      clk := (clockRdtsc c.clk).2, sched := (schedPop c.sched).1 } : TcpCtx) = ctx
    have hsocks : ctx.maps = (tcpCtxAt v c).maps := by rw [← hctx]
    have hroom : ctx.pktRoom = c.pktRoom := by rw [← hctx]; rfl
    cases hfind : sockMapLookup ctx entry.id with
    | none => exact Noted.all_pure _
    | some sid =>
      have hfind' : sockMapLookup (tcpCtxAt v c) entry.id = some sid := by
        unfold sockMapLookup at hfind ⊢
        rw [hsocks] at hfind
        exact hfind
      have hin := hin entry sid hhead (UInt64.not_lt.mp hdue) hfind'
      have hsock : sockOf ctx sid = sockOf (tcpCtxAt v c) sid := by
        unfold sockOf
        rw [hsocks]
      refine txSendNoted_good hl (sockMapLookup_lt hfind') ?_
      unfold isPktlenValid isPaylenValid txGetMaxPaylen
      rw [hsock, hroom]
      exact hin

theorem sockEntryNoted_good {sockId : UInt32} {run : TcpCtx × Ret} (hl : Layout c) :
    (sockEntryNoted v c (tcpCtxAt v c) sockId run).All (ShmUse.Good c) := by
  unfold sockEntryNoted
  cases hfind : sockMapLookup (tcpCtxAt v c) sockId with
  | none => exact Noted.all_pure _
  | some sid =>
    exact Noted.all_bind.mpr
      ⟨all_note_one.mpr (hl.sock (sockMapLookup_lt hfind)), Noted.all_pure _⟩

/-- A queued control packet stays inside where its queue and its length are
right. -/
theorem deqHandleCtlTxNoted_good (hl : Layout c) (hin : CtlIn v c) :
    (deqHandleCtlTxNoted c (tcpCtxAt v c)).All (ShmUse.Good c) := by
  obtain ⟨hqueue, hhdr⟩ := hin
  have hcfg : ∃ cfg, (tcpCtxAt v c).maps.cfg = some cfg ∧
      cfg.slowFastPktQid.toNat = ctlPktQid c := ⟨_, rfl, rfl⟩
  obtain ⟨cfg, hcfg, hq⟩ := hcfg
  have hentry : ((tcpCtxAt v c).dqueues (ctlPktQid c)).off +
    ((tcpCtxAt v c).dqueues (ctlPktQid c)).head = (c.dqueues (ctlPktQid c)).entry := rfl
  have hhead : ((tcpCtxAt v c).dqueues (ctlPktQid c)).q.head? =
      if c.shm (c.dqueues (ctlPktQid c)).entry = 0 then none
      else some (.ctlTxPkt (ctlPktAt c.shm (c.dqueues (ctlPktQid c)).entry)) := by
    show (Option.toList _).head? = _
    dsimp only
    split <;> rfl
  unfold deqHandleCtlTxNoted
  split
  · exact Noted.all_pure _
  rw [hcfg]
  dsimp only
  rw [hq, hentry, hhead]
  refine Noted.all_bind.mpr ⟨all_note_cons.mpr ⟨hl.config, all_note_cons.mpr
    ⟨⟨hqueue.qid, trivial⟩, all_note_one.mpr (ShmUse.good_bytes
      (hqueue.created.entry (o := 0) (by decide)))⟩⟩, ?_⟩
  by_cases hempty : c.shm (c.dqueues (ctlPktQid c)).entry = 0
  · rw [if_pos hempty]
    exact Noted.all_pure _
  · rw [if_neg hempty]
    dsimp only
    split
    · exact Noted.all_pure _
    have hlen : ipLen (fun i => (ctlPktAt c.shm (c.dqueues (ctlPktQid c)).entry).getD i 0) =
        be16 c.shm ((c.dqueues (ctlPktQid c)).entry + 3) := ctlPktAt_len _ _
    rw [hlen]
    refine Noted.all_bind.mpr ⟨all_note_one.mpr (ShmUse.good_bytes
      (hqueue.created.entry (by decide))), ?_⟩
    split
    · exact Noted.all_pure _
    next hval =>
    have hhdr := hhdr hempty (not_bnot_true hval)
    exact Noted.all_bind.mpr ⟨all_note_one.mpr (ShmUse.good_bytes
      (hqueue.created.entry (by omega))), Noted.all_pure _⟩

/-- **Queue entries stay inside** where a control packet to be sent does. -/
theorem eventDeqNoted_good (hl : Layout c) (hin : DeqIn v c) :
    (eventDeqNoted v c (tcpCtxAt v c)).All (ShmUse.Good c) := by
  unfold eventDeqNoted
  split
  · exact Noted.all_pure _
  next hqe =>
  have hqe : isQeValid (tcpCtxAt v c) = true := not_bnot_true hqe
  have hin := hin hqe
  have hle : c.qeOff + 64 < c.shmLen := of_decide_eq_true hqe
  have hentry : (ShmUse.bytes c.qeOff 32).Good c := ShmUse.good_bytes (.inr (by omega))
  refine Noted.all_bind.mpr ⟨all_note_one.mpr hentry, ?_⟩
  have hctx : (tcpCtxAt v c).qe = tcpQeAt c.shm c.qeOff := rfl
  rw [hctx]
  generalize tcpQeAt c.shm c.qeOff = qe at hin
  cases qe with
  | ctlTx => exact deqHandleCtlTxNoted_good hl (hin rfl)
  | bumpChamTx sockId txPort txIp txAvail => exact sockEntryNoted_good hl
  | bumpChamRx sockId rxHead => exact sockEntryNoted_good hl
  | txRetransmit sockId txSeq txPending => exact sockEntryNoted_good hl
  | ctlTxPkt | ctlRx | ctlRxPkt | bumpAppTx | bumpAppRx | unknown => exact Noted.all_pure _

end

end Chamelio.Tcp
