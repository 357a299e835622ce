import Mathlib.Data.List.Induction
import Chamelio.Udp.PortSteps

/-!
# The port table

`sids[0..nsocks)` of a port should be the sockets with that local port, each
once, and more than one of them only if all may share it. New sockets and
options keep this. A bind keeps it under two conditions that the handlers do
not test: the socket has been handed out and has no port yet (a bound socket
with `SO_REUSEPORT` joins its own port a second time), and the sockets already
there share the port (only the option of the one that comes is looked at).

The other condition is on the elements of the maps a step uses. Number 65534
passes the tests on ports and on sockets and is behind both maps.

Mirroring notes: `PortTable` is about the elements of the port map but the
first: port 0 stands for no port.
-/

namespace Chamelio.Udp

open Chamelio.Lib Chamelio.Pkt Chamelio.Fast

/-- `sids[0..nsocks)`. -/
def portSids (p : UdpPort) : List UInt32 := (List.range p.nsocks.toNat).map p.sids

/-- **What the table says of a port.** -/
structure PortEntry (s : UdpSlow) (p : Nat) : Prop where
  nodup : (portSids (s.maps.ports p)).Nodup
  exact : ∀ x, x ∈ portSids (s.maps.ports p) ↔
    x < s.nSocks ∧ (s.maps.socks x.toNat).localPort.toNat = p
  shared : 1 < (s.maps.ports p).nsocks →
    ∀ x ∈ portSids (s.maps.ports p), (s.maps.socks x.toNat).reuport = true
  few : (s.maps.ports p).nsocks ≤ maxReusockPort

def PortTable (s : UdpSlow) : Prop := ∀ p, 0 < p → p < maxPort.toNat → PortEntry s p

/-! ## The elements a step uses -/

/-- The search for a free port looks at port `p`. -/
def LooksAt (m : UdpMaps) (p : Nat) : Prop :=
  ∃ nextPort i, m.nextPort = some nextPort ∧ i < udpPortScanMax ∧
    (∀ j, j < i → freePort m (portCandidate (portStart nextPort) j) = false) ∧
    p = (portCandidate (portStart nextPort) i).toNat

/-- The step uses element `p` of the port map. -/
inductive UsesPort (s : UdpSlow) : UdpAct → Nat → Prop
  | scan {a sockId localPort localIp opaquePtr p} (hroom : (s.actxs a).slowAppQ.hasRoom = true)
    (hw : wantedPort s sockId localPort = 0) (hp : LooksAt s.maps p) :
    UsesPort s (.bind a sockId localPort localIp opaquePtr) p
  | bind {a sockId localPort localIp opaquePtr} (hroom : (s.actxs a).slowAppQ.hasRoom = true)
    (hw : wantedPort s sockId localPort ≠ 0) (hle : wantedPort s sockId localPort ≤ maxPort) :
    UsesPort s (.bind a sockId localPort localIp opaquePtr) (wantedPort s sockId localPort).toNat
  | tx {ebpf ctx sockId core txPort txIp txAvail p}
    (hqe : ctx.qe = .bumpChamTx sockId core txPort txIp txAvail) (hg : TxGuards ctx core)
    (hnone : (s.maps.socks sockId.toNat).localPort = 0) (hp : LooksAt s.maps p) :
    UsesPort s (.deq ebpf ctx) p
  | rx {ebpf ctx ipHdrsLen udpLength} (hparse : rxParse ctx = some (ipHdrsLen, udpLength))
    (hin : InPortRange (udpDst ctx.pkt ipHdrsLen)) (hcore : ctx.core.toNat < maxFpCores) :
    UsesPort s (.rx ebpf ctx) (udpDst ctx.pkt ipHdrsLen).toNat

/-- The step uses element `i` of the socket map. -/
inductive UsesSock (s : UdpSlow) : UdpAct → Nat → Prop
  | newSock {a opaquePtr rxq txq} (hfull : s.nSocks < maxSockets)
    (hroom : (s.actxs a).slowAppQ.hasRoom = true) :
    UsesSock s (.newSock a opaquePtr rxq txq) s.nSocks.toNat
  | setopt {a sockId opt opaquePtr old} (hroom : (s.actxs a).slowAppQ.hasRoom = true) :
    UsesSock s (.setopt a sockId opt opaquePtr old) sockId.toNat
  | bind {a sockId localPort localIp opaquePtr} (hroom : (s.actxs a).slowAppQ.hasRoom = true) :
    UsesSock s (.bind a sockId localPort localIp opaquePtr) sockId.toNat
  | tx {ebpf ctx sockId core txPort txIp txAvail}
    (hqe : ctx.qe = .bumpChamTx sockId core txPort txIp txAvail) (hg : TxGuards ctx core) :
    UsesSock s (.deq ebpf ctx) sockId.toNat
  | read {ebpf ctx sockId core rxHead} (hqe : ctx.qe = .bumpChamRx sockId core rxHead)
    (hg : RxGuards ctx core) : UsesSock s (.deq ebpf ctx) sockId.toNat
  | rx {ctx dstPort sid} (hfind : (udpSockFind (s.over ctx) dstPort).2 = some sid) :
    UsesSock s (.rx false ctx) sid
  | rxEbpf {ctx dstPort sid} (hfind : (Ebpf.udpSockFind (s.over ctx) dstPort).2 = some sid) :
    UsesSock s (.rx true ctx) sid

/-- Every element used lies in its map. -/
structure InsideMaps (s : UdpSlow) (act : UdpAct) : Prop where
  ports : ∀ p, UsesPort s act p → p < maxPort.toNat
  socks : ∀ i, UsesSock s act i → i < maxSockets.toNat

/-- The search for a free port ends before port 65534. -/
def ScanInside (m : UdpMaps) : Prop :=
  ∀ nextPort, m.nextPort = some nextPort →
    (portStart nextPort).toNat ≤ 65526 ∨
      ∃ i, (portStart nextPort).toNat + i < 65534 ∧
        freePort m (portSuccessor (portStart nextPort) i) = true

/-- The same as a condition on what the step is given: no socket number
beyond the map, not port 65534, and no search that reaches it. -/
def InsideInputs (s : UdpSlow) : UdpAct → Prop
  | .newSock _ _ _ _ => True
  | .setopt a sockId _ _ _ => (s.actxs a).slowAppQ.hasRoom = true → sockId < maxSockets
  | .bind a sockId localPort _ _ =>
    (s.actxs a).slowAppQ.hasRoom = true →
      sockId < maxSockets ∧ wantedPort s sockId localPort ≠ maxPort ∧
        (wantedPort s sockId localPort = 0 → ScanInside s.maps)
  | .takeAnswer _ => True
  | .rx _ ctx =>
    ∀ ipHdrsLen udpLength, rxParse ctx = some (ipHdrsLen, udpLength) →
      ctx.core.toNat < maxFpCores → udpDst ctx.pkt ipHdrsLen ≠ maxPort
  | .deq _ ctx =>
    (∀ sockId core txPort txIp txAvail, ctx.qe = .bumpChamTx sockId core txPort txIp txAvail →
      TxGuards ctx core → sockId < maxSockets ∧
        ((s.maps.socks sockId.toNat).localPort = 0 → ScanInside s.maps)) ∧
    ∀ sockId core rxHead, ctx.qe = .bumpChamRx sockId core rxHead →
      RxGuards ctx core → sockId < maxSockets

/-- A socket that binds is one that was handed out, without a port, and the
sockets of the port share it. -/
structure Joins (s : UdpSlow) (sid : Nat) (nr : UInt16) : Prop where
  created : sid < s.nSocks.toNat
  unbound : (s.maps.socks sid).localPort = 0
  shared : ∀ x ∈ portSids (s.maps.ports nr.toNat), (s.maps.socks x.toNat).reuport = true

/-- **The condition on a step.** -/
structure BindOk (s : UdpSlow) (act : UdpAct) : Prop where
  inside : InsideInputs s act
  joins : ∀ sid nr x, Binds s act sid nr x → Joins s sid nr

/-! ## Uses and inputs -/

theorem maxPort_toNat : maxPort.toNat = 65534 := rfl

theorem maxSockets_toNat : maxSockets.toNat = 65534 := rfl

theorem lt_maxSockets {x : UInt32} : x < maxSockets ↔ x.toNat < maxSockets.toNat :=
  UInt32.lt_iff_toNat_lt

/-- The candidates before port 65534 are the successors of the start. -/
theorem portCandidate_early {start : UInt16} (hlo : 1002 ≤ start.toNat) {i : Nat} (hi : i < 8)
    (hlt : start.toNat + i < 65534) :
    portCandidate start i = portSuccessor start i ∧
      (portCandidate start i).toNat = start.toNat + i := by
  refine ⟨(portCandidate_eq_iff hlo (by omega) hi).mpr (by omega), ?_⟩
  rw [portCandidate_toNat start hi, if_pos (by omega), if_neg (by omega)]

theorem scanInside_iff (m : UdpMaps) :
    (∀ p, LooksAt m p → p < maxPort.toNat) ↔ ScanInside m := by
  rw [maxPort_toNat]
  constructor
  · intro h nextPort hn
    obtain ⟨hlo, hhi⟩ := portStart_range nextPort
    by_cases hearly : (portStart nextPort).toNat ≤ 65526
    · exact .inl hearly
    · refine .inr (Classical.byContradiction fun hno => ?_)
      -- the last port of the range is looked at
      have hlook : LooksAt m 65534 := by
        refine ⟨nextPort, 65534 - (portStart nextPort).toNat, hn,
          show 65534 - (portStart nextPort).toNat < 8 by omega, fun j hj => ?_, ?_⟩
        · rw [(portCandidate_early hlo (by omega) (by omega)).1]
          cases hf : freePort m (portSuccessor (portStart nextPort) j) with
          | false => rfl
          | true => exact absurd ⟨j, by omega, hf⟩ hno
        · rw [portCandidate_toNat _ (by omega), if_pos (by omega), if_neg (by omega)]
          omega
      exact absurd (h 65534 hlook) (by omega)
  · rintro h p ⟨nextPort, i, hn, hi, hbefore, rfl⟩
    change i < 8 at hi
    obtain ⟨hlo, hhi⟩ := portStart_range nextPort
    have hlt : (portStart nextPort).toNat + i < 65534 := by
      rcases h nextPort hn with hearly | ⟨k, hk, hfree⟩
      · omega
      · apply Nat.lt_of_not_le
        intro hge
        have hused := hbefore k (by omega)
        rw [(portCandidate_early hlo (by omega) hk).1, hfree] at hused
        cases hused
    rw [(portCandidate_early hlo hi hlt).2]
    exact hlt

theorem udpSockFind_lt {ctx : UdpCtx} {dstPort : UInt16} {sid : Nat}
    (h : (udpSockFind ctx dstPort).2 = some sid) : sid < ctx.maps.sockNelems := by
  unfold udpSockFind at h
  dsimp only at h
  split at h
  · cases h
  · split at h
    · cases h
    · split at h
      · cases h
      · split at h
        · cases h
        · split at h
          · cases h
          · next hlt =>
            cases h
            exact Nat.not_le.mp hlt

theorem Ebpf.udpSockFind_lt {ctx : UdpCtx} {dstPort : UInt16} {sid : Nat}
    (h : (Ebpf.udpSockFind ctx dstPort).2 = some sid) : sid < ctx.maps.sockNelems := by
  unfold Ebpf.udpSockFind at h
  dsimp only at h
  split at h
  · cases h
  · split at h
    · cases h
    · split at h
      · cases h
      · generalize (if _ = (1 : UInt32) then (0 : UInt32) else _) = idx at h
        split at h
        · cases h
        · split at h
          · cases h
          · next hlt =>
            cases h
            rw [sockMapLookup_eq]
            exact Nat.not_le.mp hlt

/-- **The elements used lie in their maps** exactly when the inputs do. -/
theorem insideMaps_iff {s : UdpSlow} (hnelems : s.maps.sockNelems = maxSockets.toNat)
    (act : UdpAct) : InsideMaps s act ↔ InsideInputs s act := by
  cases act with
  | newSock a opaquePtr rxq txq =>
    refine ⟨fun _ => trivial, fun _ => ⟨nofun, fun i hi => ?_⟩⟩
    cases hi with
    | newSock hfull _ => exact UInt32.lt_iff_toNat_lt.mp hfull
  | setopt a sockId opt opaquePtr old =>
    refine ⟨fun h hroom => lt_maxSockets.mpr (h.socks _ (.setopt hroom)), fun h => ⟨nofun, ?_⟩⟩
    intro i hi
    cases hi with
    | setopt hroom => exact lt_maxSockets.mp (h hroom)
  | bind a sockId localPort localIp opaquePtr =>
    constructor
    · intro h hroom
      refine ⟨lt_maxSockets.mpr (h.socks _ (.bind hroom)), fun heq => ?_, fun hw => ?_⟩
      · have hne : wantedPort s sockId localPort ≠ 0 := by rw [heq]; decide
        have hlt := h.ports _ (.bind hroom hne (by rw [heq]; exact UInt16.le_refl _))
        rw [heq] at hlt
        omega
      · exact (scanInside_iff s.maps).mp fun p hp => h.ports p (.scan hroom hw hp)
    · intro h
      refine ⟨fun p hp => ?_, fun i hi => ?_⟩
      · cases hp with
        | scan hroom hw hp => exact (scanInside_iff s.maps).mpr ((h hroom).2.2 hw) p hp
        | bind hroom hw hle =>
          have hne := (h hroom).2.1
          rw [UInt16.le_iff_toNat_le] at hle
          rw [ne_eq, ← UInt16.toNat_inj] at hne
          omega
      · cases hi with
        | bind hroom => exact lt_maxSockets.mp (h hroom).1
  | takeAnswer a => exact ⟨fun _ => trivial, fun _ => ⟨nofun, nofun⟩⟩
  | rx ebpf ctx =>
    constructor
    · intro h ipHdrsLen udpLength hparse hcore heq
      have hin : InPortRange (udpDst ctx.pkt ipHdrsLen) := by rw [heq]; decide
      have hlt := h.ports _ (.rx hparse hin hcore)
      rw [heq] at hlt
      omega
    · intro h
      refine ⟨fun p hp => ?_, fun i hi => ?_⟩
      · cases hp with
        | rx hparse hin hcore =>
          have hne := h _ _ hparse hcore
          have hle := UInt16.le_iff_toNat_le.mp hin.2
          rw [ne_eq, ← UInt16.toNat_inj] at hne
          omega
      · rw [← hnelems]
        cases hi with
        | rx hfind => exact udpSockFind_lt hfind
        | rxEbpf hfind => exact Ebpf.udpSockFind_lt hfind
  | deq ebpf ctx =>
    constructor
    · intro h
      refine ⟨fun sockId core txPort txIp txAvail hqe hg => ⟨?_, fun hnone => ?_⟩,
        fun sockId core rxHead hqe hg => ?_⟩
      · exact lt_maxSockets.mpr (h.socks _ (.tx hqe hg))
      · exact (scanInside_iff s.maps).mp fun p hp => h.ports p (.tx hqe hg hnone hp)
      · exact lt_maxSockets.mpr (h.socks _ (.read hqe hg))
    · rintro ⟨htx, hread⟩
      refine ⟨fun p hp => ?_, fun i hi => ?_⟩
      · cases hp with
        | tx hqe hg hnone hp =>
          exact (scanInside_iff s.maps).mpr ((htx _ _ _ _ _ hqe hg).2 hnone) p hp
      · cases hi with
        | tx hqe hg => exact lt_maxSockets.mp (htx _ _ _ _ _ hqe hg).1
        | read hqe hg => exact lt_maxSockets.mp (hread _ _ _ hqe hg)

/-! ## The invariant -/

/-- The table, and what the steps need to keep it: a socket carries its own
number. -/
structure PortsExact (s : UdpSlow) : Prop where
  table : PortTable s
  ids : ∀ i, i < s.nSocks.toNat → (s.maps.socks i).id = UInt32.ofNat i
  nelems : s.maps.sockNelems = maxSockets.toNat
  nSocks : s.nSocks ≤ maxSockets

theorem mem_portSids {p : UdpPort} {x : UInt32} :
    x ∈ portSids p ↔ ∃ i, i < p.nsocks.toNat ∧ p.sids i = x := by
  simp [portSids]

theorem portSids_congr {p p' : UdpPort} (hn : p'.nsocks = p.nsocks) (hs : p'.sids = p.sids) :
    portSids p' = portSids p := by
  unfold portSids
  rw [hn, hs]

theorem length_portSids (p : UdpPort) : (portSids p).length = p.nsocks.toNat := by
  simp [portSids]

/-- What a bind does to the lists. -/
theorem portSids_bound {m m' : UdpMaps} {sid : Nat} {nr : UInt16} {x : UInt32}
    (h : BoundSock m m' sid nr x) (hroom : (m.ports nr.toNat).nsocks < maxReusockPort) :
    portSids (m'.ports nr.toNat) = portSids (m.ports nr.toNat) ++ [x] := by
  have hlt : (m.ports nr.toNat).nsocks.toNat < 8 := UInt32.lt_iff_toNat_lt.mp hroom
  have hn : (m'.ports nr.toNat).nsocks.toNat = (m.ports nr.toNat).nsocks.toNat + 1 := by
    rw [h.nsocks, if_pos rfl, UInt32.toNat_add, show (1 : UInt32).toNat = 1 from rfl]
    omega
  unfold portSids
  rw [hn, List.range_succ, List.map_append, List.map_singleton]
  have hlast : (m'.ports nr.toNat).sids (m.ports nr.toNat).nsocks.toNat = x := by
    rw [h.sids, if_pos ⟨rfl, rfl⟩]
  rw [hlast]
  refine congrArg (· ++ [x]) (List.map_congr_left fun i hi => ?_)
  have := List.mem_range.mp hi
  rw [h.sids, if_neg (by omega)]

theorem portSids_unbound {m m' : UdpMaps} {sid : Nat} {nr : UInt16} {x : UInt32}
    (h : BoundSock m m' sid nr x) {p : Nat} (hp : p ≠ nr.toNat) :
    portSids (m'.ports p) = portSids (m.ports p) := by
  refine portSids_congr (by rw [h.nsocks, if_neg hp]) (funext fun i => ?_)
  rw [h.sids, if_neg fun hc => hp hc.1]

/-! ## What a bind is given -/

theorem foundPort_looks {m : UdpMaps} (h : foundPort m ≠ 0) : LooksAt m (foundPort m).toNat := by
  obtain ⟨nextPort, i, hn, hi, -, hbefore, heq⟩ := foundPort_candidate h
  exact ⟨nextPort, i, hn, hi, hbefore, by rw [heq]⟩

/-- A port that is bound to lies in the map. -/
theorem Binds.inside {s : UdpSlow} {act : UdpAct} {sid : Nat} {nr : UInt16} {x : UInt32}
    (h : Binds s act sid nr x) (hin : InsideInputs s act) : 0 < nr.toNat ∧ nr.toNat < maxPort.toNat := by
  have hpos : ∀ n : UInt16, n ≠ 0 → 0 < n.toNat := fun n hn =>
    Nat.pos_of_ne_zero fun h0 => hn (UInt16.toNat_inj.mp h0)
  cases act with
  | bind a sockId localPort localIp opaquePtr =>
    obtain ⟨hroom, -, -, hne, hport, -⟩ := h
    obtain ⟨-, hmax, hscan⟩ := hin hroom
    refine ⟨hpos nr hne, ?_⟩
    rcases hport with ⟨hzero, hfound⟩ | ⟨hwanted, hle⟩
    · rw [hfound] at hne ⊢
      exact (scanInside_iff s.maps).mpr (hscan hzero) _ (foundPort_looks hne)
    · rw [← hwanted, ne_eq, ← UInt16.toNat_inj] at hmax
      rw [UInt16.le_iff_toNat_le] at hle
      omega
  | deq ebpf ctx =>
    obtain ⟨sockId, core, txPort, txIp, txAvail, hqe, hg, rfl, -, hne, hnone, hfound⟩ := h
    have hscan := (hin.1 _ _ _ _ _ hqe hg).2 hnone
    refine ⟨hpos nr hne, ?_⟩
    rw [hfound] at hne ⊢
    exact (scanInside_iff s.maps).mpr hscan _ (foundPort_looks hne)
  | newSock => exact h.elim
  | setopt => exact h.elim
  | takeAnswer => exact h.elim
  | rx => exact h.elim

/-- There is room on the port, and the socket shares it if others are there. -/
theorem Binds.room {s : UdpSlow} {act : UdpAct} {sid : Nat} {nr : UInt16} {x : UInt32}
    (h : Binds s act sid nr x) :
    (s.maps.ports nr.toNat).nsocks < maxReusockPort ∧
      ((s.maps.ports nr.toNat).nsocks = 0 ∨ (s.maps.socks sid).reuport = true) := by
  cases act with
  | bind a sockId localPort localIp opaquePtr =>
    obtain ⟨-, rfl, -, -, -, hshare, hroom⟩ := h
    exact ⟨hroom, hshare⟩
  | deq ebpf ctx =>
    obtain ⟨sockId, core, txPort, txIp, txAvail, -, -, -, -, hne, -, hfound⟩ := h
    have hzero : (s.maps.ports nr.toNat).nsocks = 0 := by
      rw [hfound] at hne ⊢
      exact foundPort_free hne
    exact ⟨by rw [hzero]; decide, .inl hzero⟩
  | newSock => exact h.elim
  | setopt => exact h.elim
  | takeAnswer => exact h.elim
  | rx => exact h.elim

/-- The number that is written is the socket's own, for a request, or what
the socket carries. -/
theorem Binds.number {s : UdpSlow} {act : UdpAct} {sid : Nat} {nr : UInt16} {x : UInt32}
    (h : Binds s act sid nr x) :
    x.toNat = sid ∨ x = (s.maps.socks sid).id ∧ (s.maps.socks sid).localPort = 0 ∧
      (s.maps.ports nr.toNat).nsocks = 0 := by
  cases act with
  | bind a sockId localPort localIp opaquePtr =>
    obtain ⟨-, rfl, rfl, -⟩ := h
    exact .inl rfl
  | deq ebpf ctx =>
    obtain ⟨sockId, core, txPort, txIp, txAvail, -, -, -, hx, hne, hnone, hfound⟩ := h
    refine .inr ⟨hx, hnone, ?_⟩
    rw [hfound] at hne ⊢
    exact foundPort_free hne
  | newSock => exact h.elim
  | setopt => exact h.elim
  | takeAnswer => exact h.elim
  | rx => exact h.elim

/-- A socket with a port of its own binds to that port. -/
theorem Binds.again {s : UdpSlow} {act : UdpAct} {sid : Nat} {nr : UInt16} {x : UInt32}
    (h : Binds s act sid nr x) (hport : (s.maps.socks sid).localPort ≠ 0) :
    (s.maps.socks sid).localPort = nr := by
  cases act with
  | bind a sockId localPort localIp opaquePtr =>
    obtain ⟨-, rfl, -, -, hwanted, -⟩ := h
    have hown : wantedPort s sockId localPort = (s.maps.socks sockId.toNat).localPort := if_pos hport
    rw [hown] at hwanted
    rcases hwanted with ⟨hzero, -⟩ | ⟨heq, -⟩
    · exact absurd hzero hport
    · exact heq.symm
  | deq ebpf ctx =>
    obtain ⟨sockId, core, txPort, txIp, txAvail, -, -, -, -, -, hnone, -⟩ := h
    exact absurd hnone hport
  | newSock => exact h.elim
  | setopt => exact h.elim
  | takeAnswer => exact h.elim
  | rx => exact h.elim

/-! ## One step -/

theorem initUdpSlowContext_exact (m : UdpMaps) (nFpCores localIp : UInt32)
    (actxs : Nat → ActxSlow) : PortsExact (initUdpSlowContext m nFpCores localIp actxs) := by
  refine ⟨fun p _ hp => ?_, fun i hi => absurd hi (Nat.not_lt_zero i), rfl, by
    show (0 : UInt32) ≤ maxSockets; decide⟩
  have hzero : ((initUdpSlowContext m nFpCores localIp actxs).maps.ports p).nsocks = 0 := by
    unfold initUdpSlowContext initMaps
    dsimp only
    rw [if_pos (show p < maxSockets.toNat from hp)]
  have hnil : portSids ((initUdpSlowContext m nFpCores localIp actxs).maps.ports p) = [] := by
    unfold portSids
    rw [hzero]
    rfl
  refine ⟨by rw [hnil]; exact List.nodup_nil, fun x => ?_, fun h => ?_, ?_⟩
  · rw [hnil]
    exact ⟨nofun, fun h => absurd h.1 UInt32.not_lt_zero⟩
  · rw [hzero] at h
    exact absurd h (by decide)
  · rw [hzero]
    decide

theorem PortsExact.same {s s' : UdpSlow} (h : PortsExact s) (hs : SameTable s.maps s'.maps)
    (hn : s'.nSocks = s.nSocks) : PortsExact s' := by
  refine ⟨fun p hp hlt => ?_, fun i hi => ?_, hs.nelems.trans h.nelems, by rw [hn]; exact h.nSocks⟩
  · have hsids := portSids_congr (hs.nsocks p) (hs.sids p)
    have he := h.table p hp hlt
    refine ⟨by rw [hsids]; exact he.nodup, fun x => ?_, fun hmany x hx => ?_, ?_⟩
    · rw [hsids, hn, hs.localPort]
      exact he.exact x
    · rw [hsids] at hx
      rw [hs.nsocks] at hmany
      rw [hs.reuport]
      exact he.shared hmany x hx
    · rw [hs.nsocks]
      exact he.few
  · rw [hs.id]
    exact h.ids i (by rw [← hn]; exact hi)

theorem PortsExact.reuse {s s' : UdpSlow} (h : PortsExact s) {sid : Nat}
    (hs : ReuseSock s.maps s'.maps sid) (hn : s'.nSocks = s.nSocks) : PortsExact s' := by
  refine ⟨fun p hp hlt => ?_, fun i hi => ?_, hs.nelems.trans h.nelems, by rw [hn]; exact h.nSocks⟩
  · have he := h.table p hp hlt
    refine ⟨by rw [hs.ports]; exact he.nodup, fun x => ?_, fun hmany x hx => ?_, ?_⟩
    · rw [hs.ports, hn, hs.localPort]
      exact he.exact x
    · rw [hs.ports] at hx hmany
      rw [hs.reuport]
      split
      · rfl
      · exact he.shared hmany x hx
    · rw [hs.ports]
      exact he.few
  · rw [hs.id]
    exact h.ids i (by rw [← hn]; exact hi)

/-- A new socket has no port, so it is in no list. -/
theorem PortsExact.reset {s s' : UdpSlow} (h : PortsExact s) (hfull : s.nSocks < maxSockets)
    (hs : ResetSock s.maps s'.maps s.nSocks)
    (hn : s'.nSocks = s.nSocks ∨ s'.nSocks = s.nSocks + 1) : PortsExact s' := by
  have hlt : s.nSocks.toNat < 65534 := UInt32.lt_iff_toNat_lt.mp hfull
  have hcount : s'.nSocks.toNat = s.nSocks.toNat ∨ s'.nSocks.toNat = s.nSocks.toNat + 1 := by
    rcases hn with hn | hn
    · exact .inl (by rw [hn])
    · refine .inr ?_
      rw [hn, UInt32.toNat_add, show (1 : UInt32).toNat = 1 from rfl]
      omega
  refine ⟨fun p hp hlt' => ?_, fun i hi => ?_, hs.nelems.trans h.nelems, ?_⟩
  · have he := h.table p hp hlt'
    refine ⟨by rw [hs.ports]; exact he.nodup, fun x => ?_, fun hmany x hx => ?_, ?_⟩
    · rw [hs.ports, he.exact, UInt32.lt_iff_toNat_lt, UInt32.lt_iff_toNat_lt]
      by_cases hx : x.toNat = s.nSocks.toNat
      · rw [hx, hs.localPort, show (0 : UInt16).toNat = 0 from rfl]
        omega
      · rw [hs.others _ hx]
        omega
    · rw [hs.ports] at hx hmany
      have hold := UInt32.lt_iff_toNat_lt.mp ((he.exact x).mp hx).1
      rw [hs.others _ (by omega)]
      exact he.shared hmany x hx
    · rw [hs.ports]
      exact he.few
  · by_cases hi' : i = s.nSocks.toNat
    · rw [hi', hs.id]
      simp
    · rw [hs.others i hi']
      exact h.ids i (by omega)
  · rw [UInt32.le_iff_toNat_le, maxSockets_toNat]
    omega

/-- **A bind that joins well** keeps the table. -/
theorem PortsExact.bound {s s' : UdpSlow} (h : PortsExact s) {act : UdpAct} {sid : Nat}
    {nr : UInt16} {x : UInt32} (hb : Binds s act sid nr x) (hin : InsideInputs s act)
    (hj : Joins s sid nr) (hs : BoundSock s.maps s'.maps sid nr x) (hn : s'.nSocks = s.nSocks) :
    PortsExact s' := by
  obtain ⟨hpos, hinside⟩ := hb.inside hin
  obtain ⟨hroom, hshare⟩ := hb.room
  have hle := UInt32.le_iff_toNat_le.mp h.nSocks
  rw [maxSockets_toNat] at hle
  -- the number written is that of the socket
  have hx : x.toNat = sid := by
    rcases hb.number with hx | ⟨hx, -, -⟩
    · exact hx
    · have hlt := hj.created
      rw [hx, h.ids sid hlt, UInt32.toNat_ofNat']
      omega
  have hmem : ∀ y : UInt32, y.toNat = sid ↔ y = x := fun y => by
    rw [← hx]
    exact UInt32.toNat_inj
  have hold : ∀ p, 0 < p → p < maxPort.toNat → x ∉ portSids (s.maps.ports p) := by
    intro p hp hlt hmem
    have := ((h.table p hp hlt).exact x).mp hmem
    rw [hx, hj.unbound, show (0 : UInt16).toNat = 0 from rfl] at this
    omega
  refine ⟨fun p hp hlt => ?_, fun i hi => ?_, hs.nelems.trans h.nelems, by rw [hn]; exact h.nSocks⟩
  · have he := h.table p hp hlt
    have hnot := hold p hp hlt
    by_cases hpn : p = nr.toNat
    · subst hpn
      have hsids := portSids_bound hs hroom
      refine ⟨?_, fun y => ?_, fun hmany y hy => ?_, ?_⟩
      · rw [hsids]
        refine List.nodup_append.mpr ⟨he.nodup, by simp, fun a ha b hb hab => ?_⟩
        rw [List.mem_singleton] at hb
        exact hnot (hb ▸ hab ▸ ha)
      · rw [hsids, List.mem_append, List.mem_singleton, he.exact, hn, hs.localPort]
        by_cases hy : y.toNat = sid
        · rw [if_pos hy]
          refine ⟨fun _ => ⟨UInt32.lt_iff_toNat_lt.mpr (by rw [hy]; exact hj.created), rfl⟩,
            fun _ => .inr ((hmem y).mp hy)⟩
        · rw [if_neg hy]
          exact ⟨fun h => h.resolve_right fun hyx => hy ((hmem y).mpr hyx), .inl⟩
      · rw [hsids, List.mem_append, List.mem_singleton] at hy
        rw [hs.reuport]
        rcases hy with hy | rfl
        · exact hj.shared y hy
        · rw [hx]
          rcases hshare with hzero | hre
          · -- the first socket of a port is alone on it
            rw [hs.nsocks, if_pos rfl, hzero] at hmany
            exact absurd hmany (by decide)
          · exact hre
      · have hlt8 := UInt32.lt_iff_toNat_lt.mp hroom
        rw [hs.nsocks, if_pos rfl, UInt32.le_iff_toNat_le, UInt32.toNat_add,
          show (1 : UInt32).toNat = 1 from rfl]
        rw [show maxReusockPort.toNat = 8 from rfl] at hlt8 ⊢
        omega
    · have hsids := portSids_unbound hs hpn
      refine ⟨by rw [hsids]; exact he.nodup, fun y => ?_, fun hmany y hy => ?_, ?_⟩
      · rw [hsids, he.exact, hn, hs.localPort]
        by_cases hy : y.toNat = sid
        · rw [if_pos hy, hy, hj.unbound, show (0 : UInt16).toNat = 0 from rfl]
          omega
        · rw [if_neg hy]
      · rw [hs.nsocks, if_neg hpn] at hmany
        rw [hsids] at hy
        rw [hs.reuport]
        exact he.shared hmany y hy
      · rw [hs.nsocks, if_neg hpn]
        exact he.few
  · rw [hs.id]
    exact h.ids i (by rw [← hn]; exact hi)

/-- A step that meets the condition keeps the table. -/
theorem PortsExact.step {s : UdpSlow} (h : PortsExact s) {act : UdpAct} (hok : BindOk s act) :
    PortsExact (s.step act).1 := by
  cases step_effect s act with
  | same hs hn => exact h.same hs hn
  | bound sid nr x hb hs hn => exact h.bound hb hok.inside (hok.joins sid nr x hb) hs hn
  | reset hfull hs hn => exact h.reset hfull hs hn
  | reuse sid hs hn => exact h.reuse hs hn

/-! ## When a bind breaks the table -/

/-- A table that is still right after a bind says that the bind joined well. -/
theorem PortsExact.joins {s s' : UdpSlow} (h : PortsExact s) {act : UdpAct} {sid : Nat}
    {nr : UInt16} {x : UInt32} (hb : Binds s act sid nr x) (hin : InsideInputs s act)
    (hs : BoundSock s.maps s'.maps sid nr x) (hn : s'.nSocks = s.nSocks) (ht : PortTable s') :
    Joins s sid nr := by
  obtain ⟨hpos, hinside⟩ := hb.inside hin
  obtain ⟨hroom, -⟩ := hb.room
  have he := h.table nr.toNat hpos hinside
  have he' := ht nr.toNat hpos hinside
  have hsids := portSids_bound hs hroom
  have hx : x ∈ portSids (s'.maps.ports nr.toNat) := by
    rw [hsids]
    simp
  obtain ⟨hlt, hport⟩ := (he'.exact x).mp hx
  rw [hn, UInt32.lt_iff_toNat_lt] at hlt
  -- a number that is not the socket's own would have been in the list before
  have hself : x.toNat = sid := by
    rcases hb.number with hself | ⟨-, -, hzero⟩
    · exact hself
    · apply Classical.byContradiction
      intro hne
      rw [hs.localPort, if_neg hne] at hport
      have hmem := (he.exact x).mpr ⟨UInt32.lt_iff_toNat_lt.mpr hlt, hport⟩
      have hlen := List.length_pos_of_mem hmem
      rw [length_portSids, hzero] at hlen
      exact absurd hlen (by decide)
  refine ⟨by rw [← hself]; exact hlt, ?_, fun y hy => ?_⟩
  · -- with a port of its own the socket would be in the list twice
    apply Classical.byContradiction
    intro hne
    have hown := hb.again hne
    have hmem : x ∈ portSids (s.maps.ports nr.toNat) :=
      (he.exact x).mpr ⟨UInt32.lt_iff_toNat_lt.mpr hlt, by rw [hself, hown]⟩
    have hnodup := he'.nodup
    rw [hsids] at hnodup
    exact (List.nodup_append.mp hnodup).2.2 x hmem x (by simp) rfl
  · have hlen : 0 < (portSids (s.maps.ports nr.toNat)).length := List.length_pos_of_mem hy
    rw [length_portSids] at hlen
    have hlt8 : (s.maps.ports nr.toNat).nsocks.toNat < 8 := UInt32.lt_iff_toNat_lt.mp hroom
    have hmany : 1 < (s'.maps.ports nr.toNat).nsocks := by
      rw [hs.nsocks, if_pos rfl, UInt32.lt_iff_toNat_lt, UInt32.toNat_add,
        show (1 : UInt32).toNat = 1 from rfl]
      omega
    have hre := he'.shared hmany y (by rw [hsids]; simp [hy])
    rwa [hs.reuport] at hre

/-- **One step keeps the table and its maps** exactly when it meets the
condition. -/
theorem PortsExact.step_iff {s : UdpSlow} (h : PortsExact s) (act : UdpAct) :
    InsideMaps s act ∧ PortTable (s.step act).1 ↔ BindOk s act := by
  constructor
  · rintro ⟨hin, ht⟩
    have hin' := (insideMaps_iff h.nelems act).mp hin
    refine ⟨hin', fun sid nr x hb => ?_⟩
    cases act with
    | bind a sockId localPort localIp opaquePtr =>
      exact h.joins hb hin' (handleBind_binds hb) (handleBind_nSocks _ _ _ _ _ _) ht
    | deq ebpf ctx =>
      have hs := udpEventDeq_binds hb
      rw [← step_deq_maps] at hs
      exact h.joins hb hin' hs (by cases ebpf <;> rfl) ht
    | newSock => exact hb.elim
    | setopt => exact hb.elim
    | takeAnswer => exact hb.elim
    | rx => exact hb.elim
  · intro hok
    exact ⟨(insideMaps_iff h.nelems act).mpr hok.inside, (h.step hok).table⟩

/-! ## Runs -/

def udpRun (s : UdpSlow) (acts : List UdpAct) : UdpSlow := acts.foldl (fun s act => (s.step act).1) s

theorem udpRun_append (s : UdpSlow) (acts : List UdpAct) (act : UdpAct) :
    udpRun s (acts ++ [act]) = ((udpRun s acts).step act).1 := by
  simp [udpRun]

theorem udpRun_exact {s : UdpSlow} (h : PortsExact s) {acts : List UdpAct}
    (hok : ∀ before act after, acts = before ++ act :: after → BindOk (udpRun s before) act) :
    PortsExact (udpRun s acts) := by
  induction acts using List.reverseRecOn with
  | nil => exact h
  | append_singleton acts act ih =>
    rw [udpRun_append]
    refine PortsExact.step (ih fun before a after hacts => ?_) (hok acts act [] rfl)
    exact hok before a (after ++ [act]) (by rw [hacts]; simp)

/-- **When the port table is right.** In every state of a run the table is
right, and every step uses elements inside the maps, exactly when every step
meets the condition. -/
theorem udp_port_table_iff (m : UdpMaps) (nFpCores localIp : UInt32) (actxs : Nat → ActxSlow)
    (acts : List UdpAct) :
    let s := initUdpSlowContext m nFpCores localIp actxs
    ((∀ before after, acts = before ++ after → PortTable (udpRun s before)) ∧
        ∀ before act after, acts = before ++ act :: after →
          InsideMaps (udpRun s before) act) ↔
      ∀ before act after, acts = before ++ act :: after → BindOk (udpRun s before) act := by
  intro s
  have h₀ : PortsExact s := initUdpSlowContext_exact m nFpCores localIp actxs
  constructor
  · rintro ⟨htable, hinside⟩
    -- the prefixes meet the condition by induction on their length
    have hall : ∀ n, ∀ before act after, before.length = n → acts = before ++ act :: after →
        BindOk (udpRun s before) act := by
      intro n
      induction n using Nat.strongRecOn with
      | _ n ih =>
        intro before act after hlen hacts
        have hexact : PortsExact (udpRun s before) := by
          apply udpRun_exact h₀
          intro b a r hb
          exact ih b.length (by rw [← hlen, hb]; simp) b a (r ++ act :: after) rfl
            (by rw [hacts, hb]; simp)
        refine (hexact.step_iff act).mp ⟨hinside before act after hacts, ?_⟩
        rw [← udpRun_append]
        exact htable (before ++ [act]) after (by rw [hacts]; simp)
    exact fun before act after hacts => hall _ before act after rfl hacts
  · intro hok
    have hexact : ∀ before after, acts = before ++ after → PortsExact (udpRun s before) := by
      intro before after hacts
      apply udpRun_exact h₀
      intro b a r hb
      exact hok b a (r ++ after) (by rw [hacts, hb]; simp)
    refine ⟨fun before after hacts => (hexact before after hacts).table, ?_⟩
    intro before act after hacts
    have hstep := hok before act after hacts
    exact (insideMaps_iff (hexact before (act :: after) hacts).nelems act).mpr hstep.inside

/-- A socket that may share its port is bound to 2000, twice. -/
def bindTwice : List UdpAct :=
  [.newSock 0 0xa0 (ring64 0) (ring64 64), .setopt 0 0 soReuseport 0xa0 (false, 0), .bind 0 0 2000 7 0xa0,
   .bind 0 0 2000 7 0xa0]

/-- It is in the list of the port twice. -/
theorem udp_port_table_twice :
    portSids ((udpRun (initUdpSlowContext blankMaps 2 7 freshActx) bindTwice).maps.ports 2000) =
        [0, 0] ∧
      ¬ PortTable (udpRun (initUdpSlowContext blankMaps 2 7 freshActx) bindTwice) := by
  have hlist : portSids
      ((udpRun (initUdpSlowContext blankMaps 2 7 freshActx) bindTwice).maps.ports 2000) =
      [0, 0] := by decide
  refine ⟨hlist, fun h => ?_⟩
  have hnodup := (h 2000 (by decide) (by decide)).nodup
  rw [hlist] at hnodup
  exact absurd hnodup (by decide)

end Chamelio.Udp
