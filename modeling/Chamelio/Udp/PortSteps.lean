import Chamelio.Udp.PortSearch

/-!
# What the steps do to the tables of ports and sockets

The slow path and the fast path write the same two tables. A request for a
socket resets one entry, an option marks one, a bind puts one socket number
behind the list of a port (`BoundSock`), whether an application asks for it
or the first datagram of a socket does. Everything else leaves the tables as
they are, as far as binding is concerned (`SameTable`).

`Binds` says from the state before a step whether it binds, and what. `UsesPort`
and `UsesSock` are the elements of the two maps that a step reads or writes,
and `InsideMaps` is the condition on the step's inputs under which they lie
inside: the maps have `MAX_PORT` and `MAX_SOCKETS` elements, so 65534, which
passes every test of the source, is behind both.

Mirroring notes: the steps are those of `UdpSlow.step`. The entry of a socket
carries more than what is compared here; `next_sock` of a port is not.
-/

namespace Chamelio.Udp

open Chamelio.Lib Chamelio.Pkt Chamelio.Fast

/-! ## Tables -/

/-- The same lists of sockets and the same local ports and options. -/
structure SameTable (m m' : UdpMaps) : Prop where
  nsocks : ∀ p, (m'.ports p).nsocks = (m.ports p).nsocks
  sids : ∀ p, (m'.ports p).sids = (m.ports p).sids
  id : ∀ i, (m'.socks i).id = (m.socks i).id
  localPort : ∀ i, (m'.socks i).localPort = (m.socks i).localPort
  reuport : ∀ i, (m'.socks i).reuport = (m.socks i).reuport
  nelems : m'.sockNelems = m.sockNelems

/-- Socket `sid` gets port `nr`, and `x` goes behind the list of the port. -/
structure BoundSock (m m' : UdpMaps) (sid : Nat) (nr : UInt16) (x : UInt32) : Prop where
  nsocks : ∀ p, (m'.ports p).nsocks =
    if p = nr.toNat then (m.ports p).nsocks + 1 else (m.ports p).nsocks
  sids : ∀ p i, (m'.ports p).sids i =
    if p = nr.toNat ∧ i = (m.ports p).nsocks.toNat then x else (m.ports p).sids i
  id : ∀ i, (m'.socks i).id = (m.socks i).id
  localPort : ∀ i, (m'.socks i).localPort = if i = sid then nr else (m.socks i).localPort
  reuport : ∀ i, (m'.socks i).reuport = (m.socks i).reuport
  nelems : m'.sockNelems = m.sockNelems

/-- Entry `sid` is that of a new socket. -/
structure ResetSock (m m' : UdpMaps) (sid : UInt32) : Prop where
  ports : m'.ports = m.ports
  others : ∀ i, i ≠ sid.toNat → m'.socks i = m.socks i
  id : (m'.socks sid.toNat).id = sid
  localPort : (m'.socks sid.toNat).localPort = 0
  reuport : (m'.socks sid.toNat).reuport = false
  nelems : m'.sockNelems = m.sockNelems

/-- Socket `sid` may share its port from now on. -/
structure ReuseSock (m m' : UdpMaps) (sid : Nat) : Prop where
  ports : m'.ports = m.ports
  id : ∀ i, (m'.socks i).id = (m.socks i).id
  localPort : ∀ i, (m'.socks i).localPort = (m.socks i).localPort
  reuport : ∀ i, (m'.socks i).reuport = if i = sid then true else (m.socks i).reuport
  nelems : m'.sockNelems = m.sockNelems

theorem SameTable.refl (m : UdpMaps) : SameTable m m :=
  ⟨fun _ => rfl, fun _ => rfl, fun _ => rfl, fun _ => rfl, fun _ => rfl, rfl⟩

/-- Steps one after the other. -/
theorem SameTable.trans {m₁ m₂ m₃ : UdpMaps} (h₁ : SameTable m₁ m₂) (h₂ : SameTable m₂ m₃) :
    SameTable m₁ m₃ :=
  ⟨fun p => (h₂.nsocks p).trans (h₁.nsocks p), fun p => (h₂.sids p).trans (h₁.sids p),
    fun i => (h₂.id i).trans (h₁.id i), fun i => (h₂.localPort i).trans (h₁.localPort i),
    fun i => (h₂.reuport i).trans (h₁.reuport i), h₂.nelems.trans h₁.nelems⟩

/-- What comes behind a bind and leaves the table alone. -/
theorem BoundSock.after {m m₁ m₂ : UdpMaps} {sid : Nat} {nr : UInt16} {x : UInt32}
    (h₁ : BoundSock m m₁ sid nr x) (h₂ : SameTable m₁ m₂) : BoundSock m m₂ sid nr x :=
  ⟨fun p => (h₂.nsocks p).trans (h₁.nsocks p), fun p i => (by rw [h₂.sids]; exact h₁.sids p i),
    fun i => (h₂.id i).trans (h₁.id i), fun i => (h₂.localPort i).trans (h₁.localPort i),
    fun i => (h₂.reuport i).trans (h₁.reuport i), h₂.nelems.trans h₁.nelems⟩

/-- What comes before it. -/
theorem BoundSock.before {m m₁ m₂ : UdpMaps} {sid : Nat} {nr : UInt16} {x : UInt32}
    (h₁ : SameTable m m₁) (h₂ : BoundSock m₁ m₂ sid nr x) : BoundSock m m₂ sid nr x := by
  refine ⟨fun p => ?_, fun p i => ?_, fun i => (h₂.id i).trans (h₁.id i), fun i => ?_,
    fun i => (h₂.reuport i).trans (h₁.reuport i), h₂.nelems.trans h₁.nelems⟩
  · rw [h₂.nsocks, h₁.nsocks]
  · rw [h₂.sids, h₁.nsocks, h₁.sids]
  · rw [h₂.localPort, h₁.localPort]

/-! ## Frames -/

/-- Writing fields of a socket that binding does not look at. -/
theorem SameTable.setSock (ctx : UdpCtx) (sid : Nat) {sock : UdpSock}
    (hid : sock.id = (sockOf ctx sid).id) (hport : sock.localPort = (sockOf ctx sid).localPort)
    (hreuse : sock.reuport = (sockOf ctx sid).reuport) :
    SameTable ctx.maps (Udp.setSock ctx sid sock).maps := by
  refine ⟨fun _ => rfl, fun _ => rfl, fun i => ?_, fun i => ?_, fun i => ?_, rfl⟩
  all_goals
    unfold Udp.setSock
    dsimp only
    split
    · next h => subst h; assumption
    · rfl

/-- The rotation moves `next_sock`, which is no part of the table. -/
theorem udpRotate_table (ctx : UdpCtx) (dstPort : UInt16) (idx : UInt32) :
    SameTable ctx.maps (udpRotate ctx dstPort idx).maps := by
  unfold udpRotate
  dsimp only
  split
  · refine ⟨fun p => ?_, fun p => ?_, fun _ => rfl, fun _ => rfl, fun _ => rfl, rfl⟩
    all_goals
      unfold setPort portOf
      dsimp only
      split
      · next h => rw [h]
      · rfl
  · exact SameTable.refl _

/-- A lookup rotates at most. -/
theorem udpSockFind_table (ctx : UdpCtx) (dstPort : UInt16) :
    SameTable ctx.maps (udpSockFind ctx dstPort).1.maps := by
  unfold udpSockFind
  dsimp only
  split
  · exact SameTable.refl _
  · split
    · exact SameTable.refl _
    · split
      · exact SameTable.refl _
      · split
        · exact SameTable.refl _
        · split
          · exact SameTable.refl _
          · exact udpRotate_table ctx _ _

/-- A lookup rotates at most. -/
theorem Ebpf.udpSockFind_table (ctx : UdpCtx) (dstPort : UInt16) :
    SameTable ctx.maps (Ebpf.udpSockFind ctx dstPort).1.maps := by
  unfold Ebpf.udpSockFind
  dsimp only
  split
  · exact SameTable.refl _
  · split
    · exact SameTable.refl _
    · split
      · exact SameTable.refl _
      · generalize (if _ = (1 : UInt32) then (0 : UInt32) else _) = idx
        split
        · exact SameTable.refl _
        · split
          · exact SameTable.refl _
          · exact udpRotate_table ctx _ _

/-- A datagram changes counters of its socket. -/
theorem rxDeliver_table (ctx : UdpCtx) (sid ipHdrsLen : Nat) (udpLength : UInt16) :
    SameTable ctx.maps (rxDeliver ctx sid ipHdrsLen udpLength).1.maps := by
  have hset : ∀ c : UdpCtx, c.maps = ctx.maps → ∀ n core,
      SameTable ctx.maps (setSock c sid { sockOf ctx sid with rxAvail := n, rxCore := core }).maps := by
    intro c hc n core
    have hsock : sockOf c sid = sockOf ctx sid := by unfold sockOf; rw [hc]
    rw [← hc]
    exact SameTable.setSock c sid (by rw [hsock]) (by rw [hsock]) (by rw [hsock])
  unfold rxDeliver
  dsimp only
  split
  · exact SameTable.refl _
  · split
    · exact SameTable.refl _
    · split
      · exact hset _ (rxCopyPayload_maps _ _ _ _) _ _
      · rw [setQueue_maps]
        exact hset _ (rxCopyPayload_maps _ _ _ _) _ _

/-- Receiving binds nothing. -/
theorem udpEventRx_table (ctx : UdpCtx) : SameTable ctx.maps (udpEventRx ctx).1.maps := by
  unfold udpEventRx
  split
  · exact SameTable.refl _
  · next ipHdrsLen udpLength _ =>
    have hfind := udpSockFind_table ctx (udpDst ctx.pkt ipHdrsLen)
    split
    · next hf => rw [hf] at hfind; exact hfind
    · next hf =>
      rw [hf] at hfind
      exact hfind.trans (rxDeliver_table _ _ _ _)

/-- Receiving binds nothing. -/
theorem Ebpf.eventRx_table (ctx : UdpCtx) : SameTable ctx.maps (Ebpf.eventRx ctx).1.maps := by
  unfold Ebpf.eventRx
  split
  · exact SameTable.refl _
  · next ipHdrsLen udpLength _ =>
    have hfind := Ebpf.udpSockFind_table ctx (udpDst ctx.pkt ipHdrsLen)
    split
    · next hf => rw [hf] at hfind; exact hfind
    · next hf =>
      rw [hf] at hfind
      rw [Ebpf.rxDeliver_eq]
      exact hfind.trans (rxDeliver_table _ _ _ _)

/-- Sending binds nothing once there is a port. -/
theorem txSend_table (ctx : UdpCtx) (sid : Nat) (core txPort : UInt16) (txIp txAvail : UInt32) :
    SameTable ctx.maps (txSend ctx sid core txPort txIp txAvail).1.maps := by
  have hset : ∀ c : UdpCtx, c.maps = ctx.maps → ∀ a n,
      SameTable ctx.maps (setSock c sid (txSockBump (sockOf ctx sid) a n)).maps := by
    intro c hc a n
    have hsock : sockOf c sid = sockOf ctx sid := by unfold sockOf; rw [hc]
    rw [← hc]
    exact SameTable.setSock c sid (by rw [hsock]; rfl) (by rw [hsock]; rfl) (by rw [hsock]; rfl)
  unfold txSend
  dsimp only
  split
  · exact SameTable.refl _
  · split
    · refine hset _ ?_ _ _
      rw [txCopyPayload_maps]
    · rw [setQueue_maps]
      refine hset _ ?_ _ _
      rw [txCopyPayload_maps]

/-- A receive bump changes the ring of its socket. -/
theorem handleBumpRx_table (ctx : UdpCtx) (sockId : UInt32) (core : UInt16) (rxHead : UInt32) :
    SameTable ctx.maps (handleBumpRx ctx sockId core rxHead).1.maps := by
  unfold handleBumpRx
  split
  · exact SameTable.refl _
  · split
    · exact SameTable.refl _
    · exact SameTable.setSock ctx _ rfl rfl rfl

/-- The search moves `next_port` on. -/
theorem findFreePort_table (ctx : UdpCtx) : SameTable ctx.maps (findFreePort ctx).1.maps := by
  unfold findFreePort
  split
  · exact SameTable.refl _
  · dsimp only
    split
    · exact SameTable.refl _
    · exact ⟨fun _ => rfl, fun _ => rfl, fun _ => rfl, fun _ => rfl, fun _ => rfl, rfl⟩

/-- The search moves `next_port` on. -/
theorem slowFindFreePort_table (s : UdpSlow) : SameTable s.maps (slowFindFreePort s).1.maps := by
  unfold slowFindFreePort
  split
  · exact SameTable.refl _
  · dsimp only
    split
    · exact SameTable.refl _
    · exact ⟨fun _ => rfl, fun _ => rfl, fun _ => rfl, fun _ => rfl, fun _ => rfl, rfl⟩

/-! ## Binding -/

/-- A bind to port `nr` passes the two tests on the port. -/
def BindWrites (s : UdpSlow) (sockId : UInt32) (nr : UInt16) : Prop :=
  ((s.maps.ports nr.toNat).nsocks = 0 ∨ (s.maps.socks sockId.toNat).reuport = true) ∧
    (s.maps.ports nr.toNat).nsocks < maxReusockPort

/-- The port `handle_bind` goes for: the socket's own, or the one asked for. -/
def wantedPort (s : UdpSlow) (sockId : UInt32) (localPort : UInt16) : UInt16 :=
  if (s.maps.socks sockId.toNat).localPort ≠ 0 then (s.maps.socks sockId.toNat).localPort
  else localPort

/-- The port the search finds; `0`: none. -/
def foundPort (m : UdpMaps) : UInt16 :=
  match m.nextPort with
  | none => 0
  | some nextPort => (portLoop (freePort m) nextPort).1

/-- The bump for a datagram to send passes the tests before the socket. -/
def TxGuards (ctx : UdpCtx) (core : UInt16) : Prop :=
  ctx.qeOff + queueEntrySize ≤ ctx.shmLen ∧ udpPktInnerSize ≤ ctx.pktRoom ∧
    core.toNat < maxFpCores

/-- The bump for data that was read passes them. -/
def RxGuards (ctx : UdpCtx) (core : UInt16) : Prop :=
  ctx.qeOff + queueEntrySize ≤ ctx.shmLen ∧ ctx.qeOff + 32 ≤ ctx.shmLen ∧ core.toNat < maxFpCores

/-- The step gives socket `sid` port `nr` and writes `x` into the list of the
port: a bind that is not refused, or the first datagram of a socket. -/
def Binds (s : UdpSlow) : UdpAct → Nat → UInt16 → UInt32 → Prop
  | .bind a sockId localPort _ _, sid, nr, x =>
    (s.actxs a).slowAppQ.hasRoom = true ∧ sid = sockId.toNat ∧ x = sockId ∧ nr ≠ 0 ∧
      (wantedPort s sockId localPort = 0 ∧ nr = foundPort s.maps ∨
        nr = wantedPort s sockId localPort ∧ nr ≤ maxPort) ∧ BindWrites s sockId nr
  | .deq _ ctx, sid, nr, x =>
    ∃ sockId core txPort txIp txAvail, ctx.qe = .bumpChamTx sockId core txPort txIp txAvail ∧
      TxGuards ctx core ∧ sid = sockId.toNat ∧ x = (s.maps.socks sid).id ∧ nr ≠ 0 ∧
        (s.maps.socks sid).localPort = 0 ∧ nr = foundPort s.maps
  | _, _, _, _ => False

/-- Both searches find the port the table determines. -/
theorem foundPort_slow (s : UdpSlow) : (slowFindFreePort s).2 = foundPort s.maps := by
  unfold foundPort
  cases hn : s.maps.nextPort with
  | none =>
    unfold slowFindFreePort
    rw [hn]
  | some nextPort =>
    have hs : { s with maps := withNextPort s.maps nextPort } = s := by
      unfold withNextPort
      rw [← hn]
    have hloop := (slowFindFreePort_loop s nextPort).1
    rw [hs] at hloop
    exact hloop

theorem foundPort_fast (ctx : UdpCtx) : (findFreePort ctx).2 = foundPort ctx.maps := by
  unfold foundPort
  cases hn : ctx.maps.nextPort with
  | none =>
    unfold findFreePort
    rw [hn]
  | some nextPort =>
    have hs : { ctx with maps := withNextPort ctx.maps nextPort } = ctx := by
      unfold withNextPort
      rw [← hn]
    have hloop := (findFreePort_loop ctx nextPort).1
    rw [hs] at hloop
    exact hloop

/-- A port that is found is the first free candidate. -/
theorem foundPort_candidate {m : UdpMaps} (h : foundPort m ≠ 0) :
    ∃ nextPort i, m.nextPort = some nextPort ∧ i < udpPortScanMax ∧
      freePort m (portCandidate (portStart nextPort) i) = true ∧
      (∀ j, j < i → freePort m (portCandidate (portStart nextPort) j) = false) ∧
      foundPort m = portCandidate (portStart nextPort) i := by
  unfold foundPort at h ⊢
  cases hn : m.nextPort with
  | none =>
    rw [hn] at h
    exact absurd rfl h
  | some nextPort =>
    rw [hn] at h
    dsimp only at h ⊢
    rcases first_candidate (freePort m) nextPort with hnone | ⟨i, hi, hfree, hbefore⟩
    · rw [portLoop_none hnone] at h
      exact absurd rfl h
    · rw [portLoop_some hi hfree hbefore]
      exact ⟨nextPort, i, rfl, hi, hfree, hbefore, rfl⟩

/-- So it has no socket. -/
theorem foundPort_free {m : UdpMaps} (h : foundPort m ≠ 0) :
    (m.ports (foundPort m).toNat).nsocks = 0 := by
  obtain ⟨nextPort, i, -, -, hfree, -, heq⟩ := foundPort_candidate h
  rw [heq]
  exact eq_of_beq hfree

/-- The socket gets the port, and the port the socket. -/
theorem bindTo_writes {s : UdpSlow} {a : Nat} {sockId : UInt32} {nr : UInt16} {localIp : UInt32}
    {opaquePtr : UInt64} (h : BindWrites s sockId nr) :
    BoundSock s.maps (bindTo s a sockId nr localIp opaquePtr).maps sockId.toNat nr sockId := by
  obtain ⟨hfree, hroom⟩ := h
  have htest : ¬ ((s.maps.ports nr.toNat).nsocks ≠ 0 ∧
      (!(s.maps.socks sockId.toNat).reuport) = true) := by
    rintro ⟨hne, hno⟩
    rcases hfree with h0 | hre
    · exact hne h0
    · rw [hre] at hno
      cases hno
  unfold bindTo
  dsimp only
  rw [if_neg htest, if_neg (UInt32.not_le.mpr hroom), answer_maps]
  refine ⟨fun p => ?_, fun p i => ?_, fun i => ?_, fun i => ?_, fun i => ?_, rfl⟩
  · unfold UdpSlow.setPort UdpSlow.setSock
    dsimp only
    by_cases hp : p = nr.toNat
    · rw [if_pos hp, if_pos hp, hp]
    · rw [if_neg hp, if_neg hp]
  · unfold UdpSlow.setPort UdpSlow.setSock
    dsimp only
    by_cases hp : p = nr.toNat
    · rw [if_pos hp, hp]
      dsimp only
      by_cases hi : i = (s.maps.ports nr.toNat).nsocks.toNat
      · rw [if_pos hi, if_pos ⟨rfl, hi⟩]
      · rw [if_neg hi, if_neg fun hc => hi hc.2]
    · rw [if_neg hp, if_neg fun hc => hp hc.1]
  all_goals
    unfold UdpSlow.setPort UdpSlow.setSock
    dsimp only
    by_cases hi : i = sockId.toNat
    · subst hi
      simp
    · simp [hi]

/-- A full port, or one that is not shared, stays as it is. -/
theorem bindTo_refuses {s : UdpSlow} {a : Nat} {sockId : UInt32} {nr : UInt16} {localIp : UInt32}
    {opaquePtr : UInt64} (h : ¬ BindWrites s sockId nr) :
    (bindTo s a sockId nr localIp opaquePtr).maps = s.maps := by
  unfold bindTo
  dsimp only
  split
  · exact answer_maps _ _ _
  · next htest =>
    split
    · exact answer_maps _ _ _
    · next hroom =>
      refine absurd ⟨?_, UInt32.not_le.mp hroom⟩ h
      by_cases h0 : (s.maps.ports nr.toNat).nsocks = 0
      · exact .inl h0
      · refine .inr ?_
        cases hre : (s.maps.socks sockId.toNat).reuport with
        | true => rfl
        | false => exact absurd ⟨h0, by rw [hre]; rfl⟩ htest

theorem slowFindFreePort_writes {s : UdpSlow} {sockId : UInt32} {nr : UInt16} :
    BindWrites (slowFindFreePort s).1 sockId nr ↔ BindWrites s sockId nr := by
  have hsame := slowFindFreePort_table s
  unfold BindWrites
  rw [hsame.nsocks, hsame.reuport]

/-- `handle_bind`, cut at its tests. -/
theorem handleBind_eq (s : UdpSlow) (a : Nat) (sockId : UInt32) (localPort : UInt16)
    (localIp : UInt32) (opaquePtr : UInt64) :
    handleBind s a sockId localPort localIp opaquePtr =
      if !(s.actxs a).slowAppQ.hasRoom then s
      else if wantedPort s sockId localPort > maxPort then answer s a (.bindRes false opaquePtr)
      else if wantedPort s sockId localPort = 0 then
        if (slowFindFreePort s).2 = 0 then
          answer (slowFindFreePort s).1 a (.bindRes false opaquePtr)
        else bindTo (slowFindFreePort s).1 a sockId (slowFindFreePort s).2 localIp opaquePtr
      else bindTo s a sockId (wantedPort s sockId localPort) localIp opaquePtr := rfl

/-- A bind that is a bind writes one socket and one port. -/
theorem handleBind_binds {s : UdpSlow} {a : Nat} {sockId : UInt32} {localPort : UInt16}
    {localIp : UInt32} {opaquePtr : UInt64} {sid : Nat} {nr : UInt16} {x : UInt32}
    (h : Binds s (.bind a sockId localPort localIp opaquePtr) sid nr x) :
    BoundSock s.maps (handleBind s a sockId localPort localIp opaquePtr).maps sid nr x := by
  obtain ⟨hroom, rfl, rfl, hne, hport, hwrites⟩ := h
  rw [handleBind_eq, if_neg (by rw [hroom]; decide)]
  rcases hport with ⟨hzero, hfound⟩ | ⟨hwanted, hle⟩
  · have hslow : (slowFindFreePort s).2 = nr := (foundPort_slow s).trans hfound.symm
    rw [hzero, hslow, if_neg (by decide), if_pos rfl, if_neg hne]
    exact BoundSock.before (slowFindFreePort_table s)
      (bindTo_writes (slowFindFreePort_writes.mpr hwrites))
  · rw [← hwanted, if_neg (UInt16.not_lt.mpr hle), if_neg hne]
    exact bindTo_writes hwrites

/-- Any other leaves the table alone. -/
theorem handleBind_same {s : UdpSlow} {a : Nat} {sockId : UInt32} {localPort : UInt16}
    {localIp : UInt32} {opaquePtr : UInt64}
    (h : ∀ sid nr x, ¬ Binds s (.bind a sockId localPort localIp opaquePtr) sid nr x) :
    SameTable s.maps (handleBind s a sockId localPort localIp opaquePtr).maps := by
  rw [handleBind_eq]
  split
  · exact SameTable.refl _
  · next hroom =>
    have hroom' : (s.actxs a).slowAppQ.hasRoom = true := by simpa using hroom
    have hno : ∀ nr, nr ≠ 0 → (wantedPort s sockId localPort = 0 ∧ nr = foundPort s.maps ∨
        nr = wantedPort s sockId localPort ∧ nr ≤ maxPort) → ¬ BindWrites s sockId nr :=
      fun nr hne hport hw => h _ nr _ ⟨hroom', rfl, rfl, hne, hport, hw⟩
    split
    · rw [answer_maps]
      exact SameTable.refl _
    · next hmax =>
      split
      · next hzero =>
        have hfind := slowFindFreePort_table s
        split
        · rw [answer_maps]
          exact hfind
        · next hne =>
          rw [bindTo_refuses]
          · exact hfind
          · rw [slowFindFreePort_writes]
            exact hno _ hne (.inl ⟨hzero, foundPort_slow s⟩)
      · next hne =>
        rw [bindTo_refuses (hno _ hne (.inr ⟨rfl, UInt16.not_lt.mp hmax⟩))]
        exact SameTable.refl _

/-- The port that a socket without one gets when it first sends. -/
theorem txBindPort_binds {ctx : UdpCtx} {sid : Nat} (hnone : (sockOf ctx sid).localPort = 0)
    (hfound : foundPort ctx.maps ≠ 0) :
    (txBindPort ctx sid).2 = true ∧
      BoundSock ctx.maps (txBindPort ctx sid).1.maps sid (foundPort ctx.maps) (sockOf ctx sid).id := by
  have hfast := foundPort_fast ctx
  have hfree := foundPort_free hfound
  have hsame := findFreePort_table ctx
  unfold txBindPort
  rw [if_neg (fun hc => hc hnone)]
  rw [show findFreePort ctx = ((findFreePort ctx).1, foundPort ctx.maps) by rw [← hfast]]
  generalize (findFreePort ctx).1 = c at hsame ⊢
  generalize foundPort ctx.maps = nr at hfound hfree ⊢
  dsimp only
  rw [if_neg hfound]
  refine ⟨rfl, ?_⟩
  refine BoundSock.before hsame ?_
  have hzero : (c.maps.ports nr.toNat).nsocks = 0 := (hsame.nsocks _).trans hfree
  refine ⟨fun p => ?_, fun p i => ?_, fun i => ?_, fun i => ?_, fun i => ?_, rfl⟩
  · unfold setSock setPort portOf
    dsimp only
    by_cases hp : p = nr.toNat
    · rw [if_pos hp, if_pos hp, hp]
    · rw [if_neg hp, if_neg hp]
  · unfold setSock setPort portOf
    dsimp only
    by_cases hp : p = nr.toNat
    · rw [if_pos hp, hp, hzero]
      dsimp only
      by_cases hi : i = 0
      · rw [if_pos hi, if_pos ⟨rfl, hi⟩]
      · rw [if_neg hi, if_neg fun hc => hi hc.2]
    · rw [if_neg hp, if_neg fun hc => hp hc.1]
  · unfold setSock setPort
    dsimp only
    split
    · next h => subst h; exact (hsame.id i).symm
    · rfl
  · unfold setSock setPort
    dsimp only
    split <;> rfl
  · unfold setSock setPort
    dsimp only
    split
    · next h => subst h; exact (hsame.reuport i).symm
    · rfl

/-- A socket with a port gets no other. -/
theorem txBindPort_same {ctx : UdpCtx} {sid : Nat}
    (h : (sockOf ctx sid).localPort ≠ 0 ∨ foundPort ctx.maps = 0) :
    SameTable ctx.maps (txBindPort ctx sid).1.maps := by
  have hfast := foundPort_fast ctx
  have hsame := findFreePort_table ctx
  unfold txBindPort
  by_cases hp : (sockOf ctx sid).localPort ≠ 0
  · rw [if_pos hp]
    exact SameTable.refl _
  · rw [if_neg hp]
    have h0 : (findFreePort ctx).2 = 0 := hfast.trans (h.resolve_left hp)
    rw [show findFreePort ctx = ((findFreePort ctx).1, 0) by rw [← h0]]
    exact hsame

/-- A bump of a socket without a port binds it. -/
theorem udpEventDeq_binds {s : UdpSlow} {ebpf : Bool} {ctx : UdpCtx} {sid : Nat} {nr : UInt16}
    {x : UInt32} (h : Binds s (.deq ebpf ctx) sid nr x) :
    BoundSock s.maps (udpEventDeq (s.over ctx)).1.maps sid nr x := by
  obtain ⟨sockId, core, txPort, txIp, txAvail, hqe, ⟨hoff, hpkt, hcore⟩, rfl, rfl, hne, hport,
    rfl⟩ := h
  have hdeq : (s.over ctx).qe = .bumpChamTx sockId core txPort txIp txAvail := hqe
  unfold udpEventDeq
  rw [if_neg (show ¬ (s.over ctx).qeOff + queueEntrySize > (s.over ctx).shmLen from
    Nat.not_lt.mpr hoff), hdeq]
  dsimp only
  unfold handleBumpTx
  rw [if_neg (show ¬ udpPktInnerSize > (s.over ctx).pktRoom from Nat.not_lt.mpr hpkt),
    if_neg (show ¬ core.toNat ≥ maxFpCores from Nat.not_le.mpr hcore)]
  obtain ⟨hok, hbound⟩ := @txBindPort_binds (s.over ctx) _ hport hne
  rw [show txBindPort (s.over ctx) sockId.toNat =
    ((txBindPort (s.over ctx) sockId.toNat).1, true) by rw [← hok]]
  exact BoundSock.after hbound (txSend_table _ _ _ _ _ _)

/-- Other entries bind nothing. -/
theorem udpEventDeq_same {s : UdpSlow} {ebpf : Bool} {ctx : UdpCtx}
    (h : ∀ sid nr x, ¬ Binds s (.deq ebpf ctx) sid nr x) :
    SameTable s.maps (udpEventDeq (s.over ctx)).1.maps := by
  unfold udpEventDeq
  split
  · exact SameTable.refl _
  · next hoff =>
    split
    · next sockId core txPort txIp txAvail hqe =>
      unfold handleBumpTx
      split
      · exact SameTable.refl _
      · next hpkt =>
        split
        · exact SameTable.refl _
        · next hcore =>
          have hguards : TxGuards ctx core :=
            ⟨Nat.not_lt.mp hoff, Nat.not_lt.mp hpkt, Nat.not_le.mp hcore⟩
          have hsame : SameTable s.maps (txBindPort (s.over ctx) sockId.toNat).1.maps := by
            refine @txBindPort_same (s.over ctx) _ ?_
            by_cases hp : (s.maps.socks sockId.toNat).localPort = 0
            · refine .inr (Classical.byContradiction fun hne => ?_)
              exact h _ _ _ ⟨sockId, core, txPort, txIp, txAvail, hqe, hguards, rfl, rfl, hne, hp, rfl⟩
            · exact .inl hp
          split
          · next hb => rw [hb] at hsame; exact hsame
          · next hb =>
            rw [hb] at hsame
            exact hsame.trans (txSend_table _ _ _ _ _ _)
    · exact handleBumpRx_table (s.over ctx) _ _ _
    · exact SameTable.refl _

/-! ## Sockets and options -/

/-- A new socket starts without a port. -/
theorem setSock_reset (s : UdpSlow) {sock : UdpSock} (hid : sock.id = s.nSocks)
    (hport : sock.localPort = 0) (hreuse : sock.reuport = false) :
    ResetSock s.maps (s.setSock s.nSocks.toNat sock).maps s.nSocks := by
  have hself : (s.setSock s.nSocks.toNat sock).maps.socks s.nSocks.toNat = sock := if_pos rfl
  exact ⟨rfl, fun i hi => if_neg hi, by rw [hself]; exact hid, by rw [hself]; exact hport,
    by rw [hself]; exact hreuse, rfl⟩

/-- A request for a socket is turned away, or the next entry is reset; the
socket counts when its rings are there. -/
theorem handleNewSock_effect (s : UdpSlow) (a : Nat) (opaquePtr : UInt64)
    (rxq txq : Option ProtoQueue) :
    handleNewSock s a opaquePtr rxq txq = s ∨
      s.nSocks < maxSockets ∧
        ResetSock s.maps (handleNewSock s a opaquePtr rxq txq).maps s.nSocks ∧
        ((handleNewSock s a opaquePtr rxq txq).nSocks = s.nSocks ∨
          (handleNewSock s a opaquePtr rxq txq).nSocks = s.nSocks + 1) := by
  unfold handleNewSock
  split
  · exact .inl rfl
  · next hfull =>
    split
    · exact .inl rfl
    · refine .inr ⟨UInt32.not_le.mp hfull, ?_⟩
      dsimp only
      split
      · exact ⟨setSock_reset s rfl rfl rfl, .inl rfl⟩
      · split
        · exact ⟨setSock_reset s rfl rfl rfl, .inl rfl⟩
        · refine ⟨?_, .inr ?_⟩
          · dsimp only
            rw [answer_maps]
            exact setSock_reset s rfl rfl rfl
          · dsimp only
            unfold answer
            split <;> rfl

/-- The option `SO_REUSEPORT` of an application that has room for the answer. -/
def SetsReuse (s : UdpSlow) (a : Nat) (opt : UInt8) : Prop :=
  (s.actxs a).slowAppQ.hasRoom = true ∧ opt = soReuseport

theorem handleSockSetopt_maps {s : UdpSlow} {a : Nat}
    (hroom : (s.actxs a).slowAppQ.hasRoom = true) (sockId : UInt32) (opt : UInt8)
    (opaquePtr : UInt64) (old : Bool × UInt64) :
    (handleSockSetopt s a sockId opt opaquePtr old).maps =
      (if opt = soReuseport then s.setSock sockId.toNat
        { s.maps.socks sockId.toNat with reuport := true } else s).maps := by
  unfold handleSockSetopt
  rw [if_neg (by rw [hroom]; exact Bool.false_ne_true)]
  dsimp only
  split
  · rw [answer_maps, answer_maps]
  · rw [answer_maps]

/-- An option sets one flag, or nothing. -/
theorem handleSockSetopt_effect (s : UdpSlow) (a : Nat) (sockId : UInt32) (opt : UInt8)
    (opaquePtr : UInt64) (old : Bool × UInt64) :
    (handleSockSetopt s a sockId opt opaquePtr old).maps = s.maps ∨
      SetsReuse s a opt ∧
        ReuseSock s.maps (handleSockSetopt s a sockId opt opaquePtr old).maps sockId.toNat := by
  by_cases hroom : (s.actxs a).slowAppQ.hasRoom = true
  · rw [handleSockSetopt_maps hroom]
    by_cases hopt : opt = soReuseport
    · rw [if_pos hopt]
      refine .inr ⟨⟨hroom, hopt⟩, ?_⟩
      refine ⟨rfl, fun i => ?_, fun i => ?_, fun i => ?_, rfl⟩
      all_goals
        unfold UdpSlow.setSock
        dsimp only
        by_cases hi : i = sockId.toNat
        · simp [hi]
        · simp [hi]
    · rw [if_neg hopt]
      exact .inl rfl
  · left
    unfold handleSockSetopt
    rw [if_pos (by simpa using hroom)]

/-! ## The steps -/

/-- **What a step does**: it binds what `Binds` says, resets the next socket,
marks a socket, or leaves the tables alone. -/
inductive Effect (s s' : UdpSlow) (act : UdpAct) : Prop
  | same (h : SameTable s.maps s'.maps) (hn : s'.nSocks = s.nSocks)
  | bound (sid : Nat) (nr : UInt16) (x : UInt32) (hb : Binds s act sid nr x)
    (h : BoundSock s.maps s'.maps sid nr x) (hn : s'.nSocks = s.nSocks)
  | reset (hfull : s.nSocks < maxSockets) (h : ResetSock s.maps s'.maps s.nSocks)
    (hn : s'.nSocks = s.nSocks ∨ s'.nSocks = s.nSocks + 1)
  | reuse (sid : Nat) (h : ReuseSock s.maps s'.maps sid) (hn : s'.nSocks = s.nSocks)

/-- An answer makes no socket. -/
theorem answer_nSocks (s : UdpSlow) (a : Nat) (e : UdpSlowQe) : (answer s a e).nSocks = s.nSocks := by
  unfold answer
  split <;> rfl

theorem slowFindFreePort_nSocks (s : UdpSlow) : (slowFindFreePort s).1.nSocks = s.nSocks := by
  unfold slowFindFreePort
  split
  · rfl
  · dsimp only
    split <;> rfl

theorem bindTo_nSocks (s : UdpSlow) (a : Nat) (sockId : UInt32) (localPort : UInt16)
    (localIp : UInt32) (opaquePtr : UInt64) :
    (bindTo s a sockId localPort localIp opaquePtr).nSocks = s.nSocks := by
  unfold bindTo
  dsimp only
  split
  · exact answer_nSocks _ _ _
  · split
    · exact answer_nSocks _ _ _
    · rw [answer_nSocks]
      rfl

/-- A bind makes no socket. -/
theorem handleBind_nSocks (s : UdpSlow) (a : Nat) (sockId : UInt32) (localPort : UInt16)
    (localIp : UInt32) (opaquePtr : UInt64) :
    (handleBind s a sockId localPort localIp opaquePtr).nSocks = s.nSocks := by
  rw [handleBind_eq]
  split
  · rfl
  · split
    · exact answer_nSocks _ _ _
    · split
      · split
        · rw [answer_nSocks, slowFindFreePort_nSocks]
        · rw [bindTo_nSocks, slowFindFreePort_nSocks]
      · exact bindTo_nSocks _ _ _ _ _ _

theorem handleSockSetopt_nSocks (s : UdpSlow) (a : Nat) (sockId : UInt32) (opt : UInt8)
    (opaquePtr : UInt64) (old : Bool × UInt64) :
    (handleSockSetopt s a sockId opt opaquePtr old).nSocks = s.nSocks := by
  unfold handleSockSetopt
  split
  · rfl
  · have hset : (if opt = soReuseport then s.setSock sockId.toNat
        { s.maps.socks sockId.toNat with reuport := true } else s).nSocks = s.nSocks := by
      split
      · rfl
      · rfl
    dsimp only
    split
    · rw [answer_nSocks, answer_nSocks]
      exact hset
    · rw [answer_nSocks]
      exact hset

/-- The two versions of `event_deq` are one. -/
theorem step_deq_maps (s : UdpSlow) (ebpf : Bool) (ctx : UdpCtx) :
    (s.step (.deq ebpf ctx)).1.maps = (udpEventDeq (s.over ctx)).1.maps := by
  cases ebpf with
  | true =>
    show (Ebpf.eventDeq (s.over ctx)).1.maps = _
    rw [Ebpf.eventDeq_eq]
  | false => rfl

/-- **What a step does to the table of ports.** -/
theorem step_effect (s : UdpSlow) (act : UdpAct) : Effect s (s.step act).1 act := by
  cases act with
  | newSock a opaquePtr rxq txq =>
    rcases handleNewSock_effect s a opaquePtr rxq txq with h | ⟨hfull, h, hn⟩
    · refine .same ?_ ?_
      · show SameTable s.maps (handleNewSock s a opaquePtr rxq txq).maps
        rw [h]
        exact SameTable.refl _
      · show (handleNewSock s a opaquePtr rxq txq).nSocks = s.nSocks
        rw [h]
    · exact .reset hfull h hn
  | setopt a sockId opt opaquePtr old =>
    have hn := handleSockSetopt_nSocks s a sockId opt opaquePtr old
    rcases handleSockSetopt_effect s a sockId opt opaquePtr old with h | ⟨-, h⟩
    · refine .same ?_ hn
      show SameTable s.maps (handleSockSetopt s a sockId opt opaquePtr old).maps
      rw [h]
      exact SameTable.refl _
    · exact .reuse _ h hn
  | bind a sockId localPort localIp opaquePtr =>
    have hn := handleBind_nSocks s a sockId localPort localIp opaquePtr
    by_cases hb : ∃ sid nr x, Binds s (.bind a sockId localPort localIp opaquePtr) sid nr x
    · obtain ⟨sid, nr, x, hb⟩ := hb
      exact .bound sid nr x hb (handleBind_binds hb) hn
    · exact .same (handleBind_same fun sid nr x h => hb ⟨sid, nr, x, h⟩) hn
  | takeAnswer a => exact .same (SameTable.refl _) rfl
  | rx ebpf ctx =>
    cases ebpf with
    | true => exact .same (Ebpf.eventRx_table (s.over ctx)) rfl
    | false => exact .same (udpEventRx_table (s.over ctx)) rfl
  | deq ebpf ctx =>
    have hdeq := step_deq_maps s ebpf ctx
    have hn : (s.step (.deq ebpf ctx)).1.nSocks = s.nSocks := by cases ebpf <;> rfl
    by_cases hb : ∃ sid nr x, Binds s (.deq ebpf ctx) sid nr x
    · obtain ⟨sid, nr, x, hb⟩ := hb
      exact .bound sid nr x hb (by rw [hdeq]; exact udpEventDeq_binds hb) hn
    · refine .same ?_ hn
      rw [hdeq]
      exact udpEventDeq_same fun sid nr x h => hb ⟨sid, nr, x, h⟩

end Chamelio.Udp
