import Chamelio.Udp.Fast

/-!
# The UDP slow path (`protos/udp/slow/udp_slow.c`)

What `init_udp_slow_context` leaves in the maps, and the three requests of
an application: a new socket, an option, a bind.

Mirroring notes:
- A request is handled in one step, as `poll_apps` does; `actx` is the
  context it came from.
- What `cham_new_queue` returns is given with the request. The second result
  is not tested in the source, so the process faults if it is `NULL`.
- `sock_id` of a request is used as it comes; `handle_sock_setopt` tests it,
  answers, and goes on. What an entry held before it is enqueued untouched is
  given with the request. An answer is read after the handler is done with it.
- The protocol's number of fast-path cores, its address and the ring sizes
  do not change.
-/

namespace Chamelio.Udp

open Chamelio.Lib Chamelio.Fast

/-- `SO_REUSEPORT`. -/
def soReuseport : UInt8 := 15

/-- What `cham_new_queue` returns, as far as it is read. -/
structure ProtoQueue where
  id : UInt16
  off : UInt64
  /-- `elsize * nelems`. -/
  len : UInt32

/-- The answers of the slow path. -/
inductive UdpSlowQe
  | newSockRes (sockId : UInt32) (opaquePtr : UInt64) (core : UInt16) (rx tx : ProtoQueue)
  | setoptRes (success : Bool) (opaquePtr : UInt64)
  | bindRes (success : Bool) (opaquePtr : UInt64)

/-- `struct udp_app_context_slow`. -/
structure ActxSlow where
  slowAppQ : Fifo UdpSlowQe
  /-- `id` of the queues that bump the application, by fast-path core. -/
  appBumpQs : Nat → UInt16

/-- `struct udp_slow_context` with the maps it shares with the fast path. -/
structure UdpSlow where
  maps : UdpMaps
  nSocks : UInt32
  nFpCores : UInt32
  localIp : UInt32
  /-- By context. -/
  actxs : Nat → ActxSlow

/-- `MAX_SOCKETS`. -/
def maxSockets : UInt32 := 65534

/-- The maps after `init_udp_slow_context`: the loop runs over `MAX_SOCKETS`
ports, so `m` shows through behind the map. -/
def initMaps (m : UdpMaps) : UdpMaps :=
  { ports := fun i =>
      if i < maxSockets.toNat then
        { m.ports i with
          nsocks := 0
          nextSock := fun j => if j < maxFpCores then UInt32.ofNat j else (m.ports i).nextSock j }
      else m.ports i
    socks := m.socks
    sockNelems := maxSockets.toNat
    nextPort := some minPort }

def initUdpSlowContext (m : UdpMaps) (nFpCores localIp : UInt32) (actxs : Nat → ActxSlow) :
    UdpSlow :=
  { maps := initMaps m, nSocks := 0, nFpCores, localIp, actxs }

def UdpSlow.setSock (s : UdpSlow) (sid : Nat) (sock : UdpSock) : UdpSlow :=
  { s with maps :=
      { s.maps with socks := fun i => if i = sid then sock else s.maps.socks i } }

def UdpSlow.setPort (s : UdpSlow) (nr : UInt16) (p : UdpPort) : UdpSlow :=
  { s with maps :=
      { s.maps with ports := fun i => if i = nr.toNat then p else s.maps.ports i } }

/-- `queue_enqueue` of an answer; the handlers log a failure. -/
def answer (s : UdpSlow) (a : Nat) (e : UdpSlowQe) : UdpSlow :=
  match (s.actxs a).slowAppQ.push e with
  | none => s
  | some q =>
    { s with actxs := fun i => if i = a then { s.actxs a with slowAppQ := q } else s.actxs i }

/-! ## A new socket -/

/-- `core` of a new socket. -/
def newSockCore (s : UdpSlow) : UInt16 :=
  if s.nFpCores ≠ 0 then (s.nSocks % s.nFpCores).toUInt16 else 0

/-- The fields written before the rings are there. -/
def newSockFields (s : UdpSlow) (actx : ActxSlow) (opaquePtr : UInt64) (sock : UdpSock) : UdpSock :=
  { sock with
    id := s.nSocks
    txCore := (newSockCore s).toNat
    rxCore := -1
    localIp := s.localIp
    appBumpQids := fun i => if i < s.nFpCores.toNat then actx.appBumpQs i else sock.appBumpQids i
    opaquePtr
    localPort := 0
    reuport := false }

def newSockRx (sock : UdpSock) (q : ProtoQueue) : UdpSock :=
  { sock with rxLen := q.len, rxAvail := 0, rxHead := 0, rxOff := q.off }

def newSockTx (sock : UdpSock) (q : ProtoQueue) : UdpSock :=
  { sock with txLen := q.len, txAvail := 0, txHead := 0, txOff := q.off }

def handleNewSock (s : UdpSlow) (a : Nat) (opaquePtr : UInt64) (rxq txq : Option ProtoQueue) :
    UdpSlow :=
  if s.nSocks ≥ maxSockets then s
  else if !(s.actxs a).slowAppQ.hasRoom then s
  else
    let sid := s.nSocks
    let core := newSockCore s
    let sock := newSockFields s (s.actxs a) opaquePtr (s.maps.socks sid.toNat)
    match rxq with
    | none => s.setSock sid.toNat sock
    | some rx =>
      let sock := newSockRx sock rx
      match txq with
      -- the fault happens after these writes
      | none => s.setSock sid.toNat sock
      | some tx =>
        let s := s.setSock sid.toNat (newSockTx sock tx)
        let s := answer s a (.newSockRes sid opaquePtr core rx tx)
        { s with nSocks := s.nSocks + 1 }

/-! ## Options and binds -/

/-- An id above the limit is answered and acted on all the same. `res` keeps
pointing at the entry of that first answer, which says success in the end; the
second entry is enqueued with its `old` contents. -/
def handleSockSetopt (s : UdpSlow) (a : Nat) (sockId : UInt32) (opt : UInt8) (opaquePtr : UInt64)
    (old : Bool × UInt64) : UdpSlow :=
  if !(s.actxs a).slowAppQ.hasRoom then s
  else
    let sock := s.maps.socks sockId.toNat
    let s := if opt = soReuseport then s.setSock sockId.toNat { sock with reuport := true } else s
    let s := answer s a (.setoptRes true opaquePtr)
    if sockId > maxSockets then answer s a (.setoptRes old.1 old.2) else s

/-- `find_free_port` of the slow path; `0`: none. -/
def slowFindFreePort (s : UdpSlow) : UdpSlow × UInt16 :=
  match s.maps.nextPort with
  | none => (s, 0)
  | some nextPort =>
    let nextPort := if nextPort < minPort ∨ nextPort > maxPort then minPort else nextPort
    match (List.range udpPortScanMax).find? (fun i =>
        (s.maps.ports (portCandidate nextPort i).toNat).nsocks == 0) with
    | none => (s, 0)
    | some i =>
      let nr := portCandidate nextPort i
      ({ s with maps := { s.maps with nextPort := some (portAfter nr) } }, nr)

/-- From the port on. -/
def bindTo (s : UdpSlow) (a : Nat) (sockId : UInt32) (localPort : UInt16) (localIp : UInt32)
    (opaquePtr : UInt64) : UdpSlow :=
  let sock := s.maps.socks sockId.toNat
  let port := s.maps.ports localPort.toNat
  if port.nsocks ≠ 0 ∧ !sock.reuport then answer s a (.bindRes false opaquePtr)
  else if port.nsocks ≥ maxReusockPort then answer s a (.bindRes false opaquePtr)
  else
    let s := s.setSock sockId.toNat { sock with localIp, localPort }
    let s := s.setPort localPort
      { port with
        sids := fun i => if i = port.nsocks.toNat then sockId else port.sids i
        nsocks := port.nsocks + 1 }
    answer s a (.bindRes true opaquePtr)

def handleBind (s : UdpSlow) (a : Nat) (sockId : UInt32) (localPort : UInt16) (localIp : UInt32)
    (opaquePtr : UInt64) : UdpSlow :=
  if !(s.actxs a).slowAppQ.hasRoom then s
  else
    let sock := s.maps.socks sockId.toNat
    let localPort := if sock.localPort ≠ 0 then sock.localPort else localPort
    if localPort > maxPort then answer s a (.bindRes false opaquePtr)
    else if localPort = 0 then
      let (s, localPort) := slowFindFreePort s
      if localPort = 0 then answer s a (.bindRes false opaquePtr)
      else bindTo s a sockId localPort localIp opaquePtr
    else bindTo s a sockId localPort localIp opaquePtr

end Chamelio.Udp
