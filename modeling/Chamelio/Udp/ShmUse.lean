import Chamelio.Fast.ShmUse
import Chamelio.Udp.EbpfAgree

/-!
# The shared memory the UDP handlers touch

Both copies of `udp_event_rx` and `udp_event_deq`, run on the bytes of the
guest's memory, with a note of every use they make of it. Without the notes
they are the handlers themselves. Of the numbers they find in the memory they
test the id of a socket when it comes out of the port map, and nothing else:
not the id in a bump, not the offset, length and position of a ring, not the
id of the application's queue. `RxIn` and `DeqIn` say what these have to be
before the handler starts.

Mirroring notes:
- The two copies differ in `udp_sock_find` alone.
- A socket that a handler was led to is noted as written, whether the handler
  gets as far as that or not.
-/

namespace Chamelio.Udp

open Chamelio.Lib Chamelio.Util Chamelio.Pkt Chamelio.Fast

/-! ## Sockets and ports as bytes -/

/-- `struct udp_sock` at `o`. -/
def udpSockAt (m : Nat → UInt8) (o : Nat) : UdpSock where
  id := u32At m o
  opaquePtr := u64At m (o + 4)
  txCore := s32 (u32At m (o + 12))
  rxCore := s32 (u32At m (o + 16))
  appBumpQids i := u16At m (o + 22 + 2 * i)
  localIp := u32At m (o + 54)
  localPort := u16At m (o + 58)
  reuport := m (o + 60) != 0
  rxLen := u32At m (o + 61)
  rxAvail := u32At m (o + 65)
  rxHead := u32At m (o + 69)
  rxOff := u64At m (o + 73)
  txLen := u32At m (o + 81)
  txAvail := u32At m (o + 85)
  txHead := u32At m (o + 89)
  txOff := u64At m (o + 93)

/-- `struct udp_port` at `o`. -/
def udpPortAt (m : Nat → UInt8) (o : Nat) : UdpPort where
  nsocks := u32At m o
  nextSock i := u32At m (o + 4 + 4 * i)
  sids i := u32At m (o + 68 + 4 * i)

/-- `PORT_MAP`, `SOCK_MAP`, `CFG_MAP`. -/
def portMap : Nat := 0
def sockMap : Nat := 1
def cfgMap : Nat := 2

def portOff (c : ShmCtx) (nr : UInt16) : Nat := elemOff c portMap nr.toNat 100
def sockOff (c : ShmCtx) (sid : Nat) : Nat := elemOff c sockMap sid 128
def cfgOff (c : ShmCtx) : Nat := elemOff c cfgMap 0 4

/-- The fields of `struct udp_queue_bump_entry` at `o`; 9 and 10 are
`UDP_QUEUE_BUMP_CHAM_TX` and `_RX`. -/
def udpQeAt (m : Nat → UInt8) (o : Nat) : UdpQe :=
  if m o = 9 then
    .bumpChamTx (u32At m (o + 1)) (u16At m (o + 5)) (u16At m (o + 7)) (u32At m (o + 9))
      (u32At m (o + 13))
  else if m o = 10 then .bumpChamRx (u32At m (o + 1)) (u16At m (o + 5)) (u32At m (o + 7))
  else .unknown

/-- The context a handler runs on. No UDP handler takes entries off a queue
itself. -/
def udpCtxAt (c : ShmCtx) : UdpCtx :=
  c.toCtx
    { ports := fun i => udpPortAt c.shm (elemOff c portMap i 100)
      socks := fun i => udpSockAt c.shm (sockOff c i)
      sockNelems := (c.maps sockMap).nelems
      nextPort := some (u16At c.shm (cfgOff c)) }
    (udpQeAt c.shm c.qeOff) fun _ => none

/-! ## Receiving -/

/-- `udp_sock_find` of either copy. -/
def sockFindOf (v : FastVersion) (ctx : UdpCtx) (dstPort : UInt16) : UdpCtx × Option Nat :=
  match v with
  | .hand => udpSockFind ctx dstPort
  | .ebpf => Ebpf.udpSockFind ctx dstPort

/-- `udp_sock_find`: the entry of the port, and again where it is rotated. -/
def sockFindNoted (v : FastVersion) (c : ShmCtx) (ctx : UdpCtx) (dstPort : UInt16) :
    Noted ShmUse (UdpCtx × Option Nat) :=
  if dstPort < minPort ∨ dstPort > maxPort then pure (ctx, none)
  else if ctx.core.toNat ≥ maxFpCores then pure (ctx, none)
  else do
    note [.bytes (portOff c dstPort) 100]
    match sockFindOf v ctx dstPort with
    | (ctx', none) => pure (ctx', none)
    | (ctx', some sid) => do
      if (portOf ctx dstPort).nsocks > 1 then
        note [.elem portMap (portOff c dstPort) 100]
        pure (ctx', some sid)
      else pure (ctx', some sid)

/-- From the socket on: its entry, the copy into its ring, and the bump. -/
def rxDeliverNoted (c : ShmCtx) (ctx : UdpCtx) (sid ipHdrsLen : Nat) (udpLength : UInt16) :
    Noted ShmUse (UdpCtx × Ret) :=
  let core := ctx.core
  if core.toNat ≥ maxFpCores then pure (ctx, none)
  else do
    note [.elem sockMap (sockOff c sid) 128]
    let payloadLen := udpLength - 8
    let sock := sockOf ctx sid
    let freeBytes := sock.rxLen - sock.rxAvail
    if payloadLen.toUInt32 > freeBytes then pure (ctx, none)
    else do
      let tail := wrapAdd sock.rxHead sock.rxAvail sock.rxLen
      note (ringUses .payload sock.rxOff sock.rxLen tail payloadLen.toUInt32
        (payloadLen.toUInt32 - (sock.rxLen - tail)).toNat)
      let ctx := rxCopyPayload ctx sock (ipHdrsLen + udpHdrSize) payloadLen
      let ctx := setSock ctx sid
        { sock with rxAvail := sock.rxAvail + payloadLen.toUInt32, rxCore := core.toNat }
      let qid := (sock.appBumpQids core.toNat).toNat
      noteTail c ctx.equeues qid 32
      match (ctx.equeues qid).push
          (.bumpAppRx sock.opaquePtr core (udpSrc ctx.pkt ipHdrsLen) (ipSrc ctx.pkt)
            payloadLen.toUInt32) with
      | none => pure (ctx, none)
      | some q => pure (ctx.setQueue qid q, some 0)

/-- `udp_event_rx`. -/
def eventRxNoted (v : FastVersion) (c : ShmCtx) (ctx : UdpCtx) : Noted ShmUse (UdpCtx × Ret) :=
  match rxParse ctx with
  | none => pure (ctx, none)
  | some (ipHdrsLen, udpLength) => do
    match ← sockFindNoted v c ctx (udpDst ctx.pkt ipHdrsLen) with
    | (ctx, none) => pure (ctx, none)
    | (ctx, some sid) => rxDeliverNoted c ctx sid ipHdrsLen udpLength

/-! ## Sending -/

/-- The ports `find_free_port` looks at, up to the first free one. -/
def scanUses (c : ShmCtx) (ctx : UdpCtx) (nextPort : UInt16) : List ShmUse :=
  ((List.range udpPortScanMax).take
    ((List.range udpPortScanMax).findIdx (fun i =>
      (portOf ctx (portCandidate nextPort i)).nsocks == 0) + 1)).map fun i =>
    .bytes (portOff c (portCandidate nextPort i)) 100

/-- `find_free_port`. -/
def findFreePortNoted (c : ShmCtx) (ctx : UdpCtx) : Noted ShmUse (UdpCtx × UInt16) := do
  note [.elem cfgMap (cfgOff c) 4]
  match ctx.maps.nextPort with
  | none => pure (ctx, 0)
  | some nextPort => do
    let nextPort := if nextPort < minPort ∨ nextPort > maxPort then minPort else nextPort
    note (scanUses c ctx nextPort)
    pure (findFreePort ctx)

/-- The socket gets a port of its own if it has none. -/
def txBindPortNoted (c : ShmCtx) (ctx : UdpCtx) (sid : Nat) : Noted ShmUse (UdpCtx × Bool) := do
  let sock := sockOf ctx sid
  if sock.localPort ≠ 0 then pure (ctx, true)
  else do
    let (ctx, localPort) ← findFreePortNoted c ctx
    if localPort = 0 then pure (ctx, false)
    else do
      note [.elem portMap (portOff c localPort) 100]
      let port := portOf ctx localPort
      let ctx := setPort ctx localPort
        { port with
          sids := fun i => if i = 0 then sock.id else port.sids i
          nsocks := port.nsocks + 1 }
      pure (setSock ctx sid { sock with localPort }, true)

/-- From the port on: the copy out of the ring and the bump. -/
def txSendNoted (c : ShmCtx) (ctx : UdpCtx) (sid : Nat) (core txPort : UInt16)
    (txIp txAvail : UInt32) : Noted ShmUse (UdpCtx × Ret) :=
  let payloadLen := txPayloadLen ctx txAvail
  if udpPktInnerSize + payloadLen.toNat > ctx.pktRoom then pure (ctx, none)
  else do
    let sock := sockOf ctx sid
    let ctx := { ctx with pkt := txHdrBytes ctx.pkt sock txPort txIp payloadLen }
    note (ringUses .bytes sock.txOff sock.txLen sock.txHead payloadLen.toUInt32
      (payloadLen.toUInt64 - (sock.txLen - sock.txHead).toUInt64).toNat)
    let ctx := txCopyPayload ctx sock payloadLen
    let ctx := setSock ctx sid (txSockBump sock txAvail payloadLen)
    let qid := (sock.appBumpQids core.toNat).toNat
    noteTail c ctx.equeues qid 32
    match (ctx.equeues qid).push (.bumpAppTx sock.opaquePtr payloadLen.toUInt32) with
    | none => pure (ctx, none)
    | some q => pure (ctx.setQueue qid q, some (udpPktInnerSize + payloadLen.toNat))

/-- `handle_bump_tx`, with the socket the entry names. -/
def handleBumpTxNoted (c : ShmCtx) (ctx : UdpCtx) (sockId : UInt32) (core txPort : UInt16)
    (txIp txAvail : UInt32) : Noted ShmUse (UdpCtx × Ret) :=
  if udpPktInnerSize > ctx.pktRoom then pure (ctx, none)
  else if core.toNat ≥ maxFpCores then pure (ctx, none)
  else do
    note [.elem sockMap (sockOff c sockId.toNat) 128]
    match ← txBindPortNoted c ctx sockId.toNat with
    | (ctx, false) => pure (ctx, none)
    | (ctx, true) => txSendNoted c ctx sockId.toNat core txPort txIp txAvail

/-- `handle_bump_rx`, with the socket the entry names. -/
def handleBumpRxNoted (c : ShmCtx) (ctx : UdpCtx) (sockId : UInt32) (core : UInt16)
    (rxHead : UInt32) : Noted ShmUse (UdpCtx × Ret) :=
  if ctx.qeOff + 32 > ctx.shmLen then pure (ctx, none)
  else if core.toNat ≥ maxFpCores then pure (ctx, none)
  else do
    note [.elem sockMap (sockOff c sockId.toNat) 128]
    let sock := sockOf ctx sockId.toNat
    pure (setSock ctx sockId.toNat
      { sock with
        rxHead := wrapAdd sock.rxHead rxHead sock.rxLen
        rxAvail := sock.rxAvail - rxHead }, some 0)

/-- `udp_event_deq`, with the entry it was given. -/
def eventDeqNoted (c : ShmCtx) (ctx : UdpCtx) : Noted ShmUse (UdpCtx × Ret) :=
  if ctx.qeOff + queueEntrySize > ctx.shmLen then pure (ctx, none)
  else do
    note [.bytes ctx.qeOff 32]
    match ctx.qe with
    | .bumpChamTx sockId core txPort txIp txAvail =>
      handleBumpTxNoted c ctx sockId core txPort txIp txAvail
    | .bumpChamRx sockId core rxHead => handleBumpRxNoted c ctx sockId core rxHead
    | _ => pure (ctx, none)

/-! ## Without the notes -/

/-- `udp_event_rx` of either copy. -/
def eventRxOf (v : FastVersion) : UdpCtx → UdpCtx × Ret :=
  match v with
  | .hand => udpEventRx
  | .ebpf => Ebpf.eventRx

/-- `udp_event_deq` of either copy. -/
def eventDeqOf (v : FastVersion) : UdpCtx → UdpCtx × Ret :=
  match v with
  | .hand => udpEventDeq
  | .ebpf => Ebpf.eventDeq

theorem sockFindNoted_val (v : FastVersion) (c : ShmCtx) (ctx : UdpCtx) (dstPort : UInt16) :
    (sockFindNoted v c ctx dstPort).val = sockFindOf v ctx dstPort := by
  unfold sockFindNoted
  split
  · next hport =>
    cases v with
    | hand => exact (if_pos hport).symm
    | ebpf => exact (if_pos hport).symm
  · next hport =>
    split
    · next hcore =>
      cases v with
      | hand => exact ((if_neg hport).trans (if_pos hcore)).symm
      | ebpf => exact ((if_neg hport).trans (if_pos hcore)).symm
    · rw [Noted.val_bind]
      rcases sockFindOf v ctx dstPort with ⟨ctx', _ | sid⟩
      · rfl
      · dsimp only
        split <;> rfl

theorem rxDeliverNoted_val (c : ShmCtx) (ctx : UdpCtx) (sid ipHdrsLen : Nat) (udpLength : UInt16) :
    (rxDeliverNoted c ctx sid ipHdrsLen udpLength).val = rxDeliver ctx sid ipHdrsLen udpLength := by
  unfold rxDeliverNoted rxDeliver
  dsimp only
  split
  · rfl
  · rw [Noted.val_bind]
    split
    · rfl
    · rw [Noted.val_bind, Noted.val_bind]
      generalize Fifo.push _ _ = pushed
      cases pushed <;> rfl

/-- **Without its notes it is `event_rx`**, in either copy. -/
theorem eventRxNoted_val (v : FastVersion) (c : ShmCtx) (ctx : UdpCtx) :
    (eventRxNoted v c ctx).val = eventRxOf v ctx := by
  have hrx : eventRxOf v ctx =
      match rxParse ctx with
      | none => (ctx, none)
      | some (ipHdrsLen, udpLength) =>
        match sockFindOf v ctx (udpDst ctx.pkt ipHdrsLen) with
        | (ctx, none) => (ctx, none)
        | (ctx, some sid) => rxDeliver ctx sid ipHdrsLen udpLength := by
    cases v with
    | hand => rfl
    | ebpf =>
      show Ebpf.eventRx ctx = _
      unfold Ebpf.eventRx
      rcases rxParse ctx with _ | ⟨ipHdrsLen, udpLength⟩
      · rfl
      · dsimp only
        show _ = match Ebpf.udpSockFind ctx (udpDst ctx.pkt ipHdrsLen) with
          | (ctx, none) => (ctx, none)
          | (ctx, some sid) => rxDeliver ctx sid ipHdrsLen udpLength
        rcases Ebpf.udpSockFind ctx (udpDst ctx.pkt ipHdrsLen) with ⟨ctx', _ | sid⟩
        · rfl
        · exact Ebpf.rxDeliver_eq ctx' sid ipHdrsLen udpLength
  rw [hrx]
  unfold eventRxNoted
  rcases rxParse ctx with _ | ⟨ipHdrsLen, udpLength⟩
  · rfl
  · dsimp only
    rw [Noted.val_bind, sockFindNoted_val]
    rcases sockFindOf v ctx (udpDst ctx.pkt ipHdrsLen) with ⟨ctx', _ | sid⟩
    · rfl
    · exact rxDeliverNoted_val c ctx' sid ipHdrsLen udpLength

theorem findFreePortNoted_val (c : ShmCtx) (ctx : UdpCtx) :
    (findFreePortNoted c ctx).val = findFreePort ctx := by
  unfold findFreePortNoted
  rw [Noted.val_bind]
  cases h : ctx.maps.nextPort with
  | none =>
    unfold findFreePort
    rw [h]
    rfl
  | some nextPort => rfl

theorem txBindPortNoted_val (c : ShmCtx) (ctx : UdpCtx) (sid : Nat) :
    (txBindPortNoted c ctx sid).val = txBindPort ctx sid := by
  unfold txBindPortNoted txBindPort
  dsimp only
  split
  · rfl
  · rw [Noted.val_bind, findFreePortNoted_val]
    rcases findFreePort ctx with ⟨ctx', localPort⟩
    dsimp only
    split <;> rfl

theorem txSendNoted_val (c : ShmCtx) (ctx : UdpCtx) (sid : Nat) (core txPort : UInt16)
    (txIp txAvail : UInt32) :
    (txSendNoted c ctx sid core txPort txIp txAvail).val =
      txSend ctx sid core txPort txIp txAvail := by
  unfold txSendNoted txSend
  dsimp only
  split
  · rfl
  · rw [Noted.val_bind, Noted.val_bind]
    generalize Fifo.push _ _ = pushed
    cases pushed <;> rfl

theorem handleBumpTxNoted_val (c : ShmCtx) (ctx : UdpCtx) (sockId : UInt32) (core txPort : UInt16)
    (txIp txAvail : UInt32) :
    (handleBumpTxNoted c ctx sockId core txPort txIp txAvail).val =
      handleBumpTx ctx sockId core txPort txIp txAvail := by
  unfold handleBumpTxNoted handleBumpTx
  split
  · rfl
  · split
    · rfl
    · rw [Noted.val_bind, Noted.val_bind, txBindPortNoted_val]
      rcases txBindPort ctx sockId.toNat with ⟨ctx', _ | _⟩
      · rfl
      · exact txSendNoted_val c ctx' sockId.toNat core txPort txIp txAvail

theorem handleBumpRxNoted_val (c : ShmCtx) (ctx : UdpCtx) (sockId : UInt32) (core : UInt16)
    (rxHead : UInt32) :
    (handleBumpRxNoted c ctx sockId core rxHead).val = handleBumpRx ctx sockId core rxHead := by
  unfold handleBumpRxNoted handleBumpRx
  split
  · rfl
  · split <;> rfl

/-- **Without its notes it is `event_deq`**, in either copy. -/
theorem eventDeqNoted_val (v : FastVersion) (c : ShmCtx) (ctx : UdpCtx) :
    (eventDeqNoted c ctx).val = eventDeqOf v ctx := by
  have hdeq : eventDeqOf v ctx = udpEventDeq ctx := by
    cases v with
    | hand => rfl
    | ebpf => exact Ebpf.eventDeq_eq ctx
  rw [hdeq]
  unfold eventDeqNoted udpEventDeq
  split
  · rfl
  · rw [Noted.val_bind]
    generalize ctx.qe = qe
    cases qe with
    | bumpChamTx sockId core txPort txIp txAvail =>
      exact handleBumpTxNoted_val c ctx sockId core txPort txIp txAvail
    | bumpChamRx sockId core rxHead => exact handleBumpRxNoted_val c ctx sockId core rxHead
    | bumpAppTx | bumpAppRx | unknown => rfl

/-! ## What the numbers of the guest have to be -/

/-- The numbers of a socket that a payload is received into. -/
structure RxSockIn (c : ShmCtx) (sock : UdpSock) : Prop where
  ring : PayloadRingIn c sock.rxOff sock.rxLen sock.rxHead sock.rxAvail
  queue : QueueIn c (c.equeues (sock.appBumpQids c.core.toNat).toNat)
    (sock.appBumpQids c.core.toNat).toNat 32

/-- The numbers of the socket a received datagram is for, where it fits; and
the element of a port that is rotated lies in its map. -/
def RxIn (v : FastVersion) (c : ShmCtx) : Prop :=
  ∀ ipHdrsLen udpLength sid, rxParse (udpCtxAt c) = some (ipHdrsLen, udpLength) →
    let dstPort := udpDst c.pkt ipHdrsLen
    let sock := udpSockAt c.shm (sockOff c sid)
    (sockFindOf v (udpCtxAt c) dstPort).2 = some sid →
      ((udpPortAt c.shm (portOff c dstPort)).nsocks > 1 → dstPort ≠ maxPort) ∧
        ((udpLength - 8).toUInt32 ≤ sock.rxLen - sock.rxAvail → RxSockIn c sock)

/-- The numbers of a socket that `n` bytes are sent from by core `core`. -/
structure TxSockIn (c : ShmCtx) (sock : UdpSock) (core : UInt16) (n : UInt32) : Prop where
  ring : RingIn c.shmLen sock.txOff sock.txLen sock.txHead n
  queue : QueueIn c (c.equeues (sock.appBumpQids core.toNat).toNat)
    (sock.appBumpQids core.toNat).toNat 32

/-- A bump names an element of the socket map; a socket without a port gets
one whose element lies in its map; and the numbers of a socket with a port are
right for what is sent. -/
def DeqIn (c : ShmCtx) : Prop :=
  c.qeOff + queueEntrySize ≤ c.shmLen →
    match udpQeAt c.shm c.qeOff with
    | .bumpChamTx sockId core _ _ txAvail =>
      udpPktInnerSize ≤ c.pktRoom → core.toNat < maxFpCores →
        sockId.toNat < (c.maps sockMap).nelems ∧
          let sock := udpSockAt c.shm (sockOff c sockId.toNat)
          let nr := (findFreePort (udpCtxAt c)).2
          (sock.localPort = 0 → nr ≠ maxPort) ∧
            ((sock.localPort = 0 → nr ≠ 0) →
              TxSockIn c sock core (txPayloadLen (udpCtxAt c) txAvail).toUInt32)
    | .bumpChamRx sockId core _ =>
      core.toNat < maxFpCores → sockId.toNat < (c.maps sockMap).nelems
    | _ => True

/-- The maps as the library creates them. The element of port 65534 lies
behind `PORT_MAP`, in what is created next. -/
structure Layout (c : ShmCtx) : Prop where
  room : c.shmLen < addrSpace
  ports : MapIn c portMap 100 65534
  behind : (c.maps portMap).off + 65535 * 100 ≤ c.shmLen
  socks : ∃ n, MapIn c sockMap 128 n
  cfg : MapIn c cfgMap 4 1

/-! ## The handlers stay inside -/

section

variable {c : ShmCtx}

/-- An element up to the last port lies in the region. -/
theorem Layout.port (h : Layout c) {nr : UInt16} (hnr : nr ≤ maxPort) :
    (ShmUse.bytes (portOff c nr) 100).Good c := by
  refine ShmUse.good_bytes (.inr ?_)
  have hp := h.behind
  have hle : nr.toNat ≤ 65534 := UInt16.le_iff_toNat_le.mp hnr
  unfold portOff elemOff
  omega

/-- But for the last it lies in its map. -/
theorem Layout.portElem (h : Layout c) {nr : UInt16} (hnr : nr ≤ maxPort) (hne : nr ≠ maxPort) :
    (ShmUse.elem portMap (portOff c nr) 100).Good c := by
  refine h.ports.elem ?_
  have hle : nr.toNat ≤ 65534 := UInt16.le_iff_toNat_le.mp hnr
  have hne : nr.toNat ≠ 65534 := fun h => hne (UInt16.toNat_inj.mp h)
  omega

/-- A socket in the map lies in the region. -/
theorem Layout.sock (h : Layout c) {sid : Nat} (hs : sid < (c.maps sockMap).nelems) :
    (ShmUse.elem sockMap (sockOff c sid) 128).Good c := by
  obtain ⟨n, hm⟩ := h.socks
  rw [hm.nelems] at hs
  exact hm.elem hs

theorem Layout.config (h : Layout c) : (ShmUse.elem cfgMap (cfgOff c) 4).Good c :=
  h.cfg.elem Nat.zero_lt_one

/-- A socket that a port leads to is one of the map, and finding it changes
no socket, no queue and not the core. -/
theorem sockFindOf_spec {v : FastVersion} {ctx ctx' : UdpCtx} {dstPort : UInt16} {sid : Nat}
    (h : sockFindOf v ctx dstPort = (ctx', some sid)) :
    sid < ctx.maps.sockNelems ∧ ctx'.maps.socks = ctx.maps.socks ∧ ctx'.equeues = ctx.equeues ∧
      ctx'.core = ctx.core := by
  have hrot : ∀ idx, (udpRotate ctx dstPort idx).maps.socks = ctx.maps.socks ∧
      (udpRotate ctx dstPort idx).equeues = ctx.equeues ∧
      (udpRotate ctx dstPort idx).core = ctx.core := by
    intro idx
    unfold udpRotate
    dsimp only
    split
    · exact ⟨rfl, rfl, rfl⟩
    · exact ⟨rfl, rfl, rfl⟩
  unfold sockFindOf at h
  cases v with
  | hand =>
    unfold udpSockFind at h
    dsimp only at h
    split at h
    · cases h
    split at h
    · cases h
    split at h
    · cases h
    split at h
    · cases h
    split at h
    · cases h
    · next hlt =>
      cases h
      exact ⟨Nat.not_le.mp hlt, hrot _⟩
  | ebpf =>
    unfold Ebpf.udpSockFind at h
    dsimp only at h
    generalize (if (ctx.maps.ports (Ebpf.portMapLookup dstPort)).nsocks = 1 then 0
      else (ctx.maps.ports (Ebpf.portMapLookup dstPort)).nextSock ctx.core.toNat) = idx at h
    split at h
    · cases h
    split at h
    · cases h
    split at h
    · cases h
    split at h
    · cases h
    split at h
    · cases h
    · next hlt =>
      cases h
      rw [Ebpf.sockMapLookup_eq]
      exact ⟨Nat.not_le.mp hlt, hrot _⟩

theorem sockFindNoted_good {v : FastVersion} {ctx : UdpCtx} {dstPort : UInt16} (hl : Layout c)
    (hport : ∀ sid, (sockFindOf v ctx dstPort).2 = some sid →
      (portOf ctx dstPort).nsocks > 1 → dstPort ≠ maxPort) :
    (sockFindNoted v c ctx dstPort).All (ShmUse.Good c) := by
  unfold sockFindNoted
  split
  · exact Noted.all_pure _
  · next hrange =>
    have hle : dstPort ≤ maxPort := UInt16.not_lt.mp (not_or.mp hrange).2
    split
    · exact Noted.all_pure _
    · refine Noted.all_bind.mpr ⟨all_note_one.mpr (hl.port hle), ?_⟩
      rcases h : sockFindOf v ctx dstPort with ⟨ctx', _ | sid⟩
      · exact Noted.all_pure _
      · dsimp only
        split
        · next hmany =>
          have hne := hport sid (congrArg Prod.snd h) hmany
          exact Noted.all_bind.mpr ⟨all_note_one.mpr (hl.portElem hle hne), Noted.all_pure _⟩
        · exact Noted.all_pure _

/-- The copy is inside where the ring is, and a full ring is not touched. -/
theorem rxDeliverNoted_good {ctx : UdpCtx} {sid ipHdrsLen : Nat} {udpLength : UInt16}
    (hl : Layout c) (hsid : sid < (c.maps sockMap).nelems) (hcore : ctx.core = c.core)
    (hin : (udpLength - 8).toUInt32 ≤ (sockOf ctx sid).rxLen - (sockOf ctx sid).rxAvail →
      RxSockIn c (sockOf ctx sid)) :
    (rxDeliverNoted c ctx sid ipHdrsLen udpLength).All (ShmUse.Good c) := by
  unfold rxDeliverNoted
  rw [hcore]
  dsimp only
  split
  · exact Noted.all_pure _
  · refine Noted.all_bind.mpr ⟨all_note_one.mpr (hl.sock hsid), ?_⟩
    split
    · exact Noted.all_pure _
    · next hfit =>
      obtain ⟨hring, hqueue⟩ := hin (UInt32.not_lt.mp hfit)
      have hn : (udpLength - 8).toUInt32.toNat ≤ (sockOf ctx sid).rxLen.toNat := by
        have hle := UInt32.le_iff_toNat_le.mp (UInt32.not_lt.mp hfit)
        rw [UInt32.toNat_sub_of_le _ _ (UInt32.le_iff_toNat_le.mpr hring.count)] at hle
        omega
      refine Noted.all_bind.mpr ⟨hring.good hl.room hn, ?_⟩
      refine Noted.all_bind.mpr ⟨noteTail_good hqueue (by decide), ?_⟩
      split <;> exact Noted.all_pure _

/-- **Receiving stays inside** where the socket's numbers are right. -/
theorem eventRxNoted_good {v : FastVersion} (hl : Layout c) (hin : RxIn v c) :
    (eventRxNoted v c (udpCtxAt c)).All (ShmUse.Good c) := by
  unfold eventRxNoted
  cases hp : rxParse (udpCtxAt c) with
  | none => exact Noted.all_pure _
  | some r =>
    obtain ⟨ipHdrsLen, udpLength⟩ := r
    have hin := hin ipHdrsLen udpLength
    refine Noted.all_bind.mpr ⟨sockFindNoted_good hl fun sid hf => (hin sid hp hf).1, ?_⟩
    rw [sockFindNoted_val]
    rcases hf : sockFindOf v (udpCtxAt c) (udpDst (udpCtxAt c).pkt ipHdrsLen) with ⟨ctx', _ | sid⟩
    · exact Noted.all_pure _
    · obtain ⟨hsid, hsocks, -, hcore⟩ := sockFindOf_spec hf
      have hsock : sockOf ctx' sid = udpSockAt c.shm (sockOff c sid) := congrFun hsocks sid
      refine rxDeliverNoted_good hl hsid hcore ?_
      rw [hsock]
      exact (hin sid hp (congrArg Prod.snd hf)).2

theorem portCandidate_le (nextPort : UInt16) (i : Nat) : portCandidate nextPort i ≤ maxPort := by
  unfold portCandidate
  dsimp only
  generalize nextPort + UInt16.ofNat i = nr
  split
  · next h =>
    -- only 65535 is above
    have hgt : 65534 < nr.toNat := UInt16.lt_iff_toNat_lt.mp h
    have hlt := nr.toNat_lt
    have hnr : nr = 65535 := UInt16.toNat_inj.mp (by show nr.toNat = 65535; omega)
    rw [hnr]
    decide
  · next h => exact UInt16.not_lt.mp h

/-- The search stays below `MAX_PORT`. -/
theorem findFreePort_le (ctx : UdpCtx) : (findFreePort ctx).2 ≤ maxPort := by
  unfold findFreePort
  split
  · exact UInt16.zero_le
  · dsimp only
    split
    · exact UInt16.zero_le
    · exact portCandidate_le _ _

theorem findFreePortNoted_good {ctx : UdpCtx} (hl : Layout c) :
    (findFreePortNoted c ctx).All (ShmUse.Good c) := by
  unfold findFreePortNoted
  refine Noted.all_bind.mpr ⟨all_note_one.mpr hl.config, ?_⟩
  cases ctx.maps.nextPort with
  | none => exact Noted.all_pure _
  | some nextPort =>
    refine Noted.all_bind.mpr ⟨?_, Noted.all_pure _⟩
    intro u hu
    obtain ⟨i, -, rfl⟩ := List.mem_map.mp hu
    exact hl.port (portCandidate_le _ i)

theorem txBindPortNoted_good {ctx : UdpCtx} {sid : Nat} (hl : Layout c)
    (hport : (sockOf ctx sid).localPort = 0 → (findFreePort ctx).2 ≠ maxPort) :
    (txBindPortNoted c ctx sid).All (ShmUse.Good c) := by
  unfold txBindPortNoted
  dsimp only
  split
  · exact Noted.all_pure _
  · next hzero =>
    refine Noted.all_bind.mpr ⟨findFreePortNoted_good hl, ?_⟩
    rw [findFreePortNoted_val]
    split
    · exact Noted.all_pure _
    · have hne := hport (not_not.mp hzero)
      exact Noted.all_bind.mpr
        ⟨all_note_one.mpr (hl.portElem (findFreePort_le ctx) hne), Noted.all_pure _⟩

/-- What binding leaves as it is; and it fails only without a free port. -/
theorem txBindPort_keeps (ctx : UdpCtx) (sid : Nat) :
    (∃ localPort, sockOf (txBindPort ctx sid).1 sid = { sockOf ctx sid with localPort }) ∧
      (txBindPort ctx sid).1.equeues = ctx.equeues ∧
      (txBindPort ctx sid).1.pktRoom = ctx.pktRoom ∧
      ((txBindPort ctx sid).2 = true →
        (sockOf ctx sid).localPort = 0 → (findFreePort ctx).2 ≠ 0) := by
  have hfree : sockOf (findFreePort ctx).1 sid = sockOf ctx sid ∧
      (findFreePort ctx).1.equeues = ctx.equeues ∧ (findFreePort ctx).1.pktRoom = ctx.pktRoom := by
    unfold findFreePort
    split
    · exact ⟨rfl, rfl, rfl⟩
    · dsimp only
      split <;> exact ⟨rfl, rfl, rfl⟩
  unfold txBindPort
  dsimp only
  split
  · next hport => exact ⟨⟨_, rfl⟩, rfl, rfl, fun _ h => absurd h hport⟩
  · split
    · next hzero =>
      exact ⟨⟨(sockOf ctx sid).localPort, hfree.1⟩, hfree.2.1, hfree.2.2, fun h => by cases h⟩
    · next hnr => exact ⟨⟨_, sockOf_setSock _ _ _⟩, hfree.2.1, hfree.2.2, fun _ _ => hnr⟩

/-- What is sent comes out of the ring. -/
theorem txSendNoted_good {ctx : UdpCtx} {sid : Nat} {core txPort : UInt16} {txIp txAvail : UInt32}
    (hl : Layout c)
    (hin : TxSockIn c (sockOf ctx sid) core (txPayloadLen ctx txAvail).toUInt32) :
    (txSendNoted c ctx sid core txPort txIp txAvail).All (ShmUse.Good c) := by
  obtain ⟨hring, hqueue⟩ := hin
  unfold txSendNoted
  dsimp only
  split
  · exact Noted.all_pure _
  · refine Noted.all_bind.mpr ⟨?_, ?_⟩
    · refine ringRead_good hl.room hring.fits hring.short hring.pos hring.count fun hgt => ?_
      exact (ring_rest_le hring.short hring.pos hring.count hgt).2
    · refine Noted.all_bind.mpr ⟨noteTail_good hqueue (by decide), ?_⟩
      split <;> exact Noted.all_pure _

/-- **Bumps stay inside** where they name an element of the socket map and
that socket's numbers are right. -/
theorem eventDeqNoted_good (hl : Layout c) (hin : DeqIn c) :
    (eventDeqNoted c (udpCtxAt c)).All (ShmUse.Good c) := by
  unfold eventDeqNoted
  split
  · exact Noted.all_pure _
  · next hqe =>
    have hqe : c.qeOff + queueEntrySize ≤ c.shmLen := Nat.not_lt.mp hqe
    have hin := hin hqe
    have hentry : (ShmUse.bytes c.qeOff 32).Good c :=
      ShmUse.good_bytes (.inr (Nat.le_trans (Nat.add_le_add_left (by decide) _) hqe))
    refine Noted.all_bind.mpr ⟨all_note_one.mpr hentry, ?_⟩
    have hctx : (udpCtxAt c).qe = udpQeAt c.shm c.qeOff := rfl
    rw [hctx]
    generalize udpQeAt c.shm c.qeOff = qe at hin
    cases qe with
    | bumpChamTx sockId core txPort txIp txAvail =>
      show (handleBumpTxNoted c (udpCtxAt c) sockId core txPort txIp txAvail).All _
      unfold handleBumpTxNoted
      split
      · exact Noted.all_pure _
      · next hroom =>
        split
        · exact Noted.all_pure _
        · next hcore =>
          obtain ⟨hsid, hport, hsend⟩ := hin (Nat.not_lt.mp hroom) (Nat.not_le.mp hcore)
          refine Noted.all_bind.mpr ⟨all_note_one.mpr (hl.sock hsid), ?_⟩
          refine Noted.all_bind.mpr ⟨txBindPortNoted_good hl hport, ?_⟩
          rw [txBindPortNoted_val]
          have hframe := txBindPort_keeps (udpCtxAt c) sockId.toNat
          rcases hb : txBindPort (udpCtxAt c) sockId.toNat with ⟨ctx', _ | _⟩
          · exact Noted.all_pure _
          · rw [hb] at hframe
            obtain ⟨⟨localPort, hsock⟩, -, hpktRoom, hbound⟩ := hframe
            refine txSendNoted_good hl ?_
            have hlen : txPayloadLen ctx' txAvail = txPayloadLen (udpCtxAt c) txAvail := by
              unfold txPayloadLen
              rw [hpktRoom]
            obtain ⟨hring, hqueue⟩ := hsend (hbound rfl)
            rw [hlen, hsock]
            exact ⟨hring, hqueue⟩
    | bumpChamRx sockId core rxHead =>
      show (handleBumpRxNoted c (udpCtxAt c) sockId core rxHead).All _
      unfold handleBumpRxNoted
      split
      · exact Noted.all_pure _
      · split
        · exact Noted.all_pure _
        · next hcore =>
          have hsid := hin (Nat.not_le.mp hcore)
          exact Noted.all_bind.mpr ⟨all_note_one.mpr (hl.sock hsid), Noted.all_pure _⟩
    | bumpAppTx | bumpAppRx | unknown => exact Noted.all_pure _

end

end Chamelio.Udp
