import Chamelio.Udp.PortTable

/-!
# The sockets a core finds for a port (`udp_sock_find`)

Several sockets can share a port, and every core goes round a part of them:
it starts at the list position that is its own number and goes on by the
number of cores. A core whose number is not below the number of sockets has
no position of its own. The fast-path program then finds no socket, unless
there is a single one, which all cores share; the hand-written handler reads
the position behind the list, where no bind has written.

Lookups also turn away the ports below `MIN_PORT`, which a bind accepts, and
accept 65534, whose element is behind the port map.

Mirroring notes: the steps are those of `UdpSlow.step`, with one number of
cores throughout (`OnCores`) and two conditions (`StepIn`): a socket is handed
out before it is bound, and a step uses elements inside the maps. What lies
behind the port map is socket 0 in the memory, and a cell of its own here.
-/

namespace Chamelio.Udp

open Chamelio.Lib Chamelio.Pkt Chamelio.Fast

/-- Socket `sid` is bound to port `p`. -/
def BoundTo (s : UdpSlow) (p : UInt16) (sid : Nat) : Prop :=
  sid < s.nSocks.toNat ∧ (s.maps.socks sid).localPort = p

/-- The context after `n` lookups. -/
def lookups (find : UdpCtx → UInt16 → UdpCtx × Option Nat) (p : UInt16) : Nat → UdpCtx → UdpCtx
  | 0, ctx => ctx
  | n + 1, ctx => lookups find p n (find ctx p).1

/-- **What a core should find**: repeated lookups go round a fixed, not empty
list of the sockets in question. -/
def GoesRound (find : UdpCtx → UInt16 → UdpCtx × Option Nat) (ctx : UdpCtx) (p : UInt16)
    (bound : Nat → Prop) : Prop :=
  ∃ round : List Nat, round ≠ [] ∧ (∀ sid ∈ round, bound sid) ∧
    ∀ n, (find (lookups find p n ctx) p).2 = round[n % round.length]?

/-- An event of the fast path is one of the system's cores. -/
def OnCores (ncores : UInt16) : UdpAct → Prop
  | .rx _ ctx => ctx.ncores = ncores ∧ ctx.core < ncores
  | .deq _ ctx => ctx.ncores = ncores ∧ ctx.core < ncores
  | _ => True

/-- Whatever is bound is a socket that was handed out. -/
def HandedOut (s : UdpSlow) (act : UdpAct) : Prop :=
  ∀ sid nr x, Binds s act sid nr x → sid < s.nSocks.toNat

/-- The steps of the runs: their elements lie in the maps, and whatever they
bind was handed out. -/
structure StepIn (s : UdpSlow) (act : UdpAct) : Prop where
  inside : InsideMaps s act
  handedOut : HandedOut s act

/-- The position a core goes on from is its own number, or one it reached
from there by steps of the number of cores. -/
def OwnPlace (ncores c : Nat) (p : UdpPort) : Prop :=
  p.nextSock c = UInt32.ofNat c ∨
    p.nextSock c < p.nsocks ∧ ∃ t, (p.nextSock c).toNat = c + t * ncores

/-- The lists name sockets of their port, and every bound port has a list. -/
structure PortsReach (ncores : Nat) (s : UdpSlow) : Prop where
  entries : ∀ p, 0 < p → p < maxPort.toNat → ∀ x ∈ portSids (s.maps.ports p),
    x < s.nSocks ∧ (s.maps.socks x.toNat).localPort.toNat = p
  bound : ∀ p, 0 < p → p < maxPort.toNat → ∀ sid, sid < s.nSocks.toNat →
    (s.maps.socks sid).localPort.toNat = p → (s.maps.ports p).nsocks ≠ 0
  few : ∀ p, p < maxPort.toNat → (s.maps.ports p).nsocks ≤ maxReusockPort
  place : ∀ p, p < maxPort.toNat → ∀ c, c < ncores → OwnPlace ncores c (s.maps.ports p)
  ids : ∀ i, i < s.nSocks.toNat → (s.maps.socks i).id = UInt32.ofNat i
  nelems : s.maps.sockNelems = maxSockets.toNat
  nSocks : s.nSocks ≤ maxSockets

/-! ## What the steps do to `next_sock` -/

/-- No port goes on from another place. -/
def SamePlace (m m' : UdpMaps) : Prop := ∀ p, (m'.ports p).nextSock = (m.ports p).nextSock

theorem SamePlace.refl (m : UdpMaps) : SamePlace m m := fun _ => rfl

theorem SamePlace.of_ports {m m' : UdpMaps} (h : m'.ports = m.ports) : SamePlace m m' := by
  intro p
  rw [h]

theorem bindTo_place (s : UdpSlow) (a : Nat) (sockId : UInt32) (nr : UInt16) (localIp : UInt32)
    (opaquePtr : UInt64) :
    SamePlace s.maps (bindTo s a sockId nr localIp opaquePtr).maps := by
  unfold bindTo
  dsimp only
  split
  · rw [answer_maps]
    exact SamePlace.refl _
  · split
    · rw [answer_maps]
      exact SamePlace.refl _
    · rw [answer_maps]
      intro p
      unfold UdpSlow.setPort UdpSlow.setSock
      dsimp only
      split
      · next h => rw [h]
      · rfl

theorem handleBind_place (s : UdpSlow) (a : Nat) (sockId : UInt32) (localPort : UInt16)
    (localIp : UInt32) (opaquePtr : UInt64) :
    SamePlace s.maps (handleBind s a sockId localPort localIp opaquePtr).maps := by
  have hfind := SamePlace.of_ports (slowFindFreePort_ports s)
  rw [handleBind_eq]
  split
  · exact SamePlace.refl _
  · split
    · rw [answer_maps]
      exact SamePlace.refl _
    · split
      · split
        · rw [answer_maps]
          exact hfind
        · exact fun p => (bindTo_place _ _ _ _ _ _ p).trans (hfind p)
      · exact bindTo_place _ _ _ _ _ _

theorem txBindPort_place (ctx : UdpCtx) (sid : Nat) :
    SamePlace ctx.maps (txBindPort ctx sid).1.maps := by
  have hfind := SamePlace.of_ports (findFreePort_spec ctx).1
  unfold txBindPort
  dsimp only
  split
  · exact SamePlace.refl _
  · split
    · exact hfind
    · intro p
      refine Eq.trans ?_ (hfind p)
      unfold setSock setPort portOf
      dsimp only
      split
      · next h => rw [h]
      · rfl

theorem udpEventDeq_place (ctx : UdpCtx) : SamePlace ctx.maps (udpEventDeq ctx).1.maps := by
  unfold udpEventDeq
  split
  · exact SamePlace.refl _
  · split
    · next sockId core txPort txIp txAvail _ =>
      have hbind := txBindPort_place ctx sockId.toNat
      unfold handleBumpTx
      split
      · exact SamePlace.refl _
      · split
        · exact SamePlace.refl _
        · split
          · next hb => rw [hb] at hbind; exact hbind
          · next hb =>
            rw [hb] at hbind
            intro p
            rw [txSend_ports]
            exact hbind p
    · unfold handleBumpRx
      split
      · exact SamePlace.refl _
      · split
        · exact SamePlace.refl _
        · exact SamePlace.of_ports rfl
    · exact SamePlace.refl _

/-- The place after a lookup. -/
theorem udpRotate_place {ncores : Nat} {ctx : UdpCtx} {dstPort : UInt16}
    (hcores : ctx.ncores.toNat = ncores) {p : Nat}
    (hplace : ∀ c, c < ncores → OwnPlace ncores c (ctx.maps.ports p)) {idx : UInt32}
    (hidx : 1 < (portOf ctx dstPort).nsocks → idx = (portOf ctx dstPort).nextSock ctx.core.toNat)
    (hsmall : idx < maxReusockPort) {c : Nat} (hc : c < ncores) :
    OwnPlace ncores c ((udpRotate ctx dstPort idx).maps.ports p) := by
  unfold udpRotate
  dsimp only
  split
  · next hmany =>
    unfold setPort
    dsimp only
    by_cases hp : p = dstPort.toNat
    · have hport : ctx.maps.ports p = portOf ctx dstPort := by rw [hp]; rfl
      rw [hport] at hplace
      rw [if_pos hp]
      unfold OwnPlace
      dsimp only
      by_cases hcc : c = ctx.core.toNat
      · rw [if_pos hcc]
        unfold udpNextSock
        dsimp only
        split
        · refine .inl ?_
          rw [hcc]
          simp
        · next hlt =>
          have hsum : (idx + ctx.ncores.toUInt32).toNat = idx.toNat + ncores := by
            have h₁ := UInt32.lt_iff_toNat_lt.mp hsmall
            have h₂ := ctx.ncores.toNat_lt
            rw [show maxReusockPort.toNat = 8 from rfl] at h₁
            rw [UInt32.toNat_add, UInt16.toNat_toUInt32, hcores]
            omega
          refine .inr ⟨UInt32.not_le.mp hlt, ?_⟩
          rw [hsum, hidx hmany, ← hcc]
          rcases hplace c hc with heq | ⟨-, t, ht⟩
          · have hcore := ctx.core.toNat_lt
            exact ⟨1, by rw [heq, UInt32.toNat_ofNat']; omega⟩
          · exact ⟨t + 1, by rw [ht, Nat.add_mul]; omega⟩
      · rw [if_neg hcc]
        exact hplace c hc
    · rw [if_neg hp]
      exact hplace c hc
  · exact hplace c hc

theorem udpSockFind_place {ncores : Nat} {ctx : UdpCtx} {p : Nat}
    (hcores : ctx.ncores.toNat = ncores)
    (hplace : ∀ c, c < ncores → OwnPlace ncores c (ctx.maps.ports p)) (dstPort : UInt16) :
    ∀ c, c < ncores → OwnPlace ncores c ((udpSockFind ctx dstPort).1.maps.ports p) := by
  unfold udpSockFind
  dsimp only
  split
  · exact hplace
  · split
    · exact hplace
    · split
      · exact hplace
      · split
        · exact hplace
        · next hsmall =>
          split
          · exact hplace
          · exact fun c hc =>
              udpRotate_place hcores hplace (fun _ => rfl) (UInt32.not_le.mp hsmall) hc

theorem Ebpf.udpSockFind_place {ncores : Nat} {ctx : UdpCtx} {p : Nat}
    (hcores : ctx.ncores.toNat = ncores)
    (hplace : ∀ c, c < ncores → OwnPlace ncores c (ctx.maps.ports p)) (dstPort : UInt16) :
    ∀ c, c < ncores → OwnPlace ncores c ((Ebpf.udpSockFind ctx dstPort).1.maps.ports p) := by
  unfold Ebpf.udpSockFind
  rw [portMapLookup_eq]
  dsimp only
  split
  · exact hplace
  · split
    · exact hplace
    · split
      · exact hplace
      · have hidx : 1 < (portOf ctx dstPort).nsocks →
            (if (ctx.maps.ports dstPort.toNat).nsocks = 1 then 0
              else (ctx.maps.ports dstPort.toNat).nextSock ctx.core.toNat) =
            (portOf ctx dstPort).nextSock ctx.core.toNat := by
          intro hmany
          rw [if_neg]
          · rfl
          · intro hone
            have hone' : (portOf ctx dstPort).nsocks = 1 := hone
            rw [hone'] at hmany
            exact absurd hmany (by decide)
        generalize (if _ = (1 : UInt32) then (0 : UInt32) else _) = idx at hidx ⊢
        split
        · exact hplace
        · next hsmall =>
          rw [not_or] at hsmall
          split
          · exact hplace
          · exact fun c hc =>
              udpRotate_place hcores hplace hidx (UInt32.not_le.mp hsmall.2) hc

theorem udpEventRx_place {ncores : Nat} {ctx : UdpCtx} {p : Nat}
    (hcores : ctx.ncores.toNat = ncores)
    (hplace : ∀ c, c < ncores → OwnPlace ncores c (ctx.maps.ports p)) :
    ∀ c, c < ncores → OwnPlace ncores c ((udpEventRx ctx).1.maps.ports p) := by
  unfold udpEventRx
  split
  · exact hplace
  · next ipHdrsLen udpLength _ =>
    have hfind := udpSockFind_place hcores hplace (udpDst ctx.pkt ipHdrsLen)
    split
    · next hf => rw [hf] at hfind; exact hfind
    · next hf =>
      rw [hf] at hfind
      rw [rxDeliver_ports]
      exact hfind

theorem Ebpf.eventRx_place {ncores : Nat} {ctx : UdpCtx} {p : Nat}
    (hcores : ctx.ncores.toNat = ncores)
    (hplace : ∀ c, c < ncores → OwnPlace ncores c (ctx.maps.ports p)) :
    ∀ c, c < ncores → OwnPlace ncores c ((Ebpf.eventRx ctx).1.maps.ports p) := by
  unfold Ebpf.eventRx
  split
  · exact hplace
  · next ipHdrsLen udpLength _ =>
    have hfind := Ebpf.udpSockFind_place hcores hplace (udpDst ctx.pkt ipHdrsLen)
    split
    · next hf => rw [hf] at hfind; exact hfind
    · next hf =>
      rw [hf] at hfind
      rw [Ebpf.rxDeliver_eq, rxDeliver_ports]
      exact hfind

/-- A place stays when the list only grows. -/
theorem OwnPlace.grow {ncores c : Nat} {p p' : UdpPort} (h : OwnPlace ncores c p)
    (hnext : p'.nextSock = p.nextSock) (hle : p.nsocks ≤ p'.nsocks) : OwnPlace ncores c p' := by
  unfold OwnPlace at h ⊢
  rw [hnext]
  exact h.imp_right fun ht => ⟨UInt32.lt_of_lt_of_le ht.1 hle, ht.2⟩

/-! ## One step -/

theorem initUdpSlowContext_reach (ncores : Nat) (hcores : ncores ≤ maxFpCores) (m : UdpMaps)
    (nFpCores localIp : UInt32) (actxs : Nat → ActxSlow) :
    PortsReach ncores (initUdpSlowContext m nFpCores localIp actxs) := by
  have hexact := initUdpSlowContext_exact m nFpCores localIp actxs
  have hports := initMaps_inv m
  refine ⟨fun p hp hlt x hx => ((hexact.table p hp hlt).exact x).mp hx,
    fun p _ _ sid hsid => absurd hsid (Nat.not_lt_zero sid), fun p hp => (hports p hp).few,
    fun p hp c hc => .inl ?_, hexact.ids, hexact.nelems, hexact.nSocks⟩
  unfold initUdpSlowContext initMaps
  dsimp only
  rw [if_pos (show p < maxSockets.toNat from hp)]
  dsimp only
  rw [if_pos (by omega)]

/-- The parts of the invariant that say nothing of places. -/
theorem PortsReach.of_effect {ncores : Nat} {s s' : UdpSlow} {act : UdpAct}
    (h : PortsReach ncores s) (hout : HandedOut s act) (heff : Effect s s' act)
    (hplace : ∀ p, p < maxPort.toNat → ∀ c, c < ncores →
      OwnPlace ncores c (s'.maps.ports p)) : PortsReach ncores s' := by
  have hmax := UInt32.le_iff_toNat_le.mp h.nSocks
  rw [maxSockets_toNat] at hmax
  cases heff with
  | same hs hn =>
    refine ⟨fun p hp hlt x hx => ?_, fun p hp hlt sid hsid hport => ?_, fun p hlt => ?_, hplace,
      fun i hi => ?_, hs.nelems.trans h.nelems, by rw [hn]; exact h.nSocks⟩
    · rw [portSids_congr (hs.nsocks p) (hs.sids p)] at hx
      rw [hn, hs.localPort]
      exact h.entries p hp hlt x hx
    · rw [hn] at hsid
      rw [hs.localPort] at hport
      rw [hs.nsocks]
      exact h.bound p hp hlt sid hsid hport
    · rw [hs.nsocks]
      exact h.few p hlt
    · rw [hs.id]
      exact h.ids i (by rw [← hn]; exact hi)
  | reuse sid hs hn =>
    refine ⟨fun p hp hlt x hx => ?_, fun p hp hlt sid hsid hport => ?_, fun p hlt => ?_, hplace,
      fun i hi => ?_, hs.nelems.trans h.nelems, by rw [hn]; exact h.nSocks⟩
    · rw [hs.ports] at hx
      rw [hn, hs.localPort]
      exact h.entries p hp hlt x hx
    · rw [hn] at hsid
      rw [hs.localPort] at hport
      rw [hs.ports]
      exact h.bound p hp hlt sid hsid hport
    · rw [hs.ports]
      exact h.few p hlt
    · rw [hs.id]
      exact h.ids i (by rw [← hn]; exact hi)
  | reset hfull hs hn =>
    have hlt' : s.nSocks.toNat < 65534 := UInt32.lt_iff_toNat_lt.mp hfull
    have hcount : s'.nSocks.toNat = s.nSocks.toNat ∨ s'.nSocks.toNat = s.nSocks.toNat + 1 := by
      rcases hn with hn | hn
      · exact .inl (by rw [hn])
      · refine .inr ?_
        rw [hn, UInt32.toNat_add, show (1 : UInt32).toNat = 1 from rfl]
        omega
    refine ⟨fun p hp hlt x hx => ?_, fun p hp hlt sid hsid hport => ?_, fun p hlt => ?_, hplace,
      fun i hi => ?_, hs.nelems.trans h.nelems, ?_⟩
    · rw [hs.ports] at hx
      obtain ⟨hold, hport⟩ := h.entries p hp hlt x hx
      have hold' := UInt32.lt_iff_toNat_lt.mp hold
      rw [hs.others _ (by omega), UInt32.lt_iff_toNat_lt]
      exact ⟨by omega, hport⟩
    · rw [hs.ports]
      by_cases hnew : sid = s.nSocks.toNat
      · rw [hnew, hs.localPort, show (0 : UInt16).toNat = 0 from rfl] at hport
        omega
      · rw [hs.others sid hnew] at hport
        exact h.bound p hp hlt sid (by omega) hport
    · rw [hs.ports]
      exact h.few p hlt
    · by_cases hi' : i = s.nSocks.toNat
      · rw [hi', hs.id]
        simp
      · rw [hs.others i hi']
        exact h.ids i (by omega)
    · rw [UInt32.le_iff_toNat_le, maxSockets_toNat]
      omega
  | bound sid nr x hb hs hn =>
    obtain ⟨hroom, -⟩ := hb.room
    have hlt8 : (s.maps.ports nr.toNat).nsocks.toNat < 8 := UInt32.lt_iff_toNat_lt.mp hroom
    have hone : ((s.maps.ports nr.toNat).nsocks + 1).toNat =
        (s.maps.ports nr.toNat).nsocks.toNat + 1 := by
      rw [UInt32.toNat_add, show (1 : UInt32).toNat = 1 from rfl]
      omega
    have hcreated := hout sid nr x hb
    have hx : x.toNat = sid := by
      rcases hb.number with hx | ⟨hx, -, -⟩
      · exact hx
      · rw [hx, h.ids sid hcreated, UInt32.toNat_ofNat']
        omega
    -- a socket that is bound again keeps its port
    have hkeeps : (s.maps.socks sid).localPort = 0 ∨ (s.maps.socks sid).localPort = nr := by
      by_cases hport : (s.maps.socks sid).localPort = 0
      · exact .inl hport
      · exact .inr (hb.again hport)
    refine ⟨fun p hp hlt y hy => ?_, fun p hp hlt i hi hport => ?_, fun p hlt => ?_, hplace,
      fun i hi => ?_, hs.nelems.trans h.nelems, by rw [hn]; exact h.nSocks⟩
    · rw [hn, hs.localPort]
      by_cases hpn : p = nr.toNat
      · rw [hpn, portSids_bound hs hroom, List.mem_append, List.mem_singleton] at hy
        by_cases hys : y.toNat = sid
        · rw [if_pos hys, UInt32.lt_iff_toNat_lt]
          exact ⟨by omega, hpn.symm⟩
        · rw [if_neg hys, hpn]
          refine h.entries nr.toNat (by omega) (by omega) y (hy.resolve_right fun hyx => hys ?_)
          rw [hyx, hx]
      · rw [portSids_unbound hs hpn] at hy
        obtain ⟨hold, hport⟩ := h.entries p hp hlt y hy
        refine ⟨hold, ?_⟩
        by_cases hys : y.toNat = sid
        · rw [hys] at hport
          rcases hkeeps with h0 | hself
          · rw [h0, show (0 : UInt16).toNat = 0 from rfl] at hport
            omega
          · rw [hself] at hport
            omega
        · rw [if_neg hys]
          exact hport
    · rw [hs.nsocks]
      by_cases hpn : p = nr.toNat
      · rw [if_pos hpn, hpn]
        intro h0
        rw [h0] at hone
        exact absurd hone (by rw [show (0 : UInt32).toNat = 0 from rfl]; omega)
      · rw [if_neg hpn]
        rw [hs.localPort] at hport
        by_cases his : i = sid
        · rw [if_pos his] at hport
          omega
        · rw [if_neg his] at hport
          exact h.bound p hp hlt i (by rw [← hn]; exact hi) hport
    · rw [hs.nsocks]
      split
      · next hpn =>
        rw [hpn, UInt32.le_iff_toNat_le, hone, show maxReusockPort.toNat = 8 from rfl]
        omega
      · exact h.few p hlt
    · rw [hs.id]
      exact h.ids i (by rw [← hn]; exact hi)

/-- No list gets shorter. -/
theorem Effect.grows {s s' : UdpSlow} {act : UdpAct} (h : Effect s s' act) (p : Nat) :
    (s.maps.ports p).nsocks ≤ (s'.maps.ports p).nsocks := by
  cases h with
  | same hs _ => rw [hs.nsocks]; exact UInt32.le_refl _
  | reuse sid hs _ => rw [hs.ports]; exact UInt32.le_refl _
  | reset _ hs _ => rw [hs.ports]; exact UInt32.le_refl _
  | bound sid nr x hb hs _ =>
    rw [hs.nsocks]
    split
    · next hp =>
      have hlt8 : (s.maps.ports p).nsocks.toNat < 8 := by
        rw [hp]
        exact UInt32.lt_iff_toNat_lt.mp hb.room.1
      rw [UInt32.le_iff_toNat_le, UInt32.toNat_add, show (1 : UInt32).toNat = 1 from rfl]
      omega
    · exact UInt32.le_refl _

/-- A step that binds only sockets that were handed out keeps the invariant. -/
theorem PortsReach.step {ncores : UInt16} {s : UdpSlow} (h : PortsReach ncores.toNat s)
    {act : UdpAct} (hcores : OnCores ncores act) (hout : HandedOut s act) :
    PortsReach ncores.toNat (s.step act).1 := by
  have heff := step_effect s act
  refine h.of_effect hout heff fun p hp => ?_
  have hold := h.place p hp
  have hsame : SamePlace s.maps (s.step act).1.maps → ∀ c, c < ncores.toNat →
      OwnPlace ncores.toNat c ((s.step act).1.maps.ports p) := fun hplace c hc =>
    (hold c hc).grow (hplace p) (heff.grows p)
  cases act with
  | newSock a opaquePtr rxq txq => exact hsame (SamePlace.of_ports (handleNewSock_ports s _ _ _ _))
  | setopt a sockId opt opaquePtr old =>
    exact hsame (SamePlace.of_ports (handleSockSetopt_ports s _ _ _ _ _))
  | bind a sockId localPort localIp opaquePtr => exact hsame (handleBind_place s _ _ _ _ _)
  | takeAnswer a => exact hsame (SamePlace.refl _)
  | deq ebpf ctx =>
    refine hsame ?_
    rw [step_deq_maps]
    exact udpEventDeq_place (s.over ctx)
  | rx ebpf ctx =>
    have hn : (s.over ctx).ncores.toNat = ncores.toNat := by
      show ctx.ncores.toNat = _
      rw [hcores.1]
    cases ebpf with
    | true => exact @Ebpf.eventRx_place _ (s.over ctx) p hn hold
    | false => exact @udpEventRx_place _ (s.over ctx) p hn hold

theorem udpRun_reach {ncores : UInt16} {s : UdpSlow} (h : PortsReach ncores.toNat s)
    {acts : List UdpAct} (hcores : ∀ act ∈ acts, OnCores ncores act)
    (hout : ∀ before act after, acts = before ++ act :: after →
      HandedOut (udpRun s before) act) : PortsReach ncores.toNat (udpRun s acts) := by
  induction acts using List.reverseRecOn with
  | nil => exact h
  | append_singleton acts act ih =>
    rw [udpRun_append]
    refine PortsReach.step (ih (fun a ha => hcores a (by simp [ha])) ?_) (hcores act (by simp))
      (hout acts act [] rfl)
    intro before a after hacts
    exact hout before a (after ++ [act]) (by rw [hacts]; simp)

/-! ## Going round -/

/-- Lookups change nothing but the places. -/
structure SameView (ctx ctx' : UdpCtx) : Prop where
  ncores : ctx'.ncores = ctx.ncores
  core : ctx'.core = ctx.core
  table : SameTable ctx.maps ctx'.maps

theorem SameView.refl (ctx : UdpCtx) : SameView ctx ctx := ⟨rfl, rfl, SameTable.refl _⟩

theorem udpRotate_view (ctx : UdpCtx) (p : UInt16) (idx : UInt32) :
    SameView ctx (udpRotate ctx p idx) := by
  refine ⟨?_, ?_, udpRotate_table ctx p idx⟩
  all_goals
    unfold udpRotate
    dsimp only
    split <;> rfl

/-- A lookup whose position and number pass the tests. -/
theorem udpSockFind_some {ctx : UdpCtx} {p : UInt16} (hp : InPortRange p)
    (hcore : ctx.core.toNat < maxFpCores) (hne : (portOf ctx p).nsocks ≠ 0)
    (hidx : (portOf ctx p).nextSock ctx.core.toNat < maxReusockPort)
    (hsid : ((portOf ctx p).sids ((portOf ctx p).nextSock ctx.core.toNat).toNat).toNat <
      ctx.maps.sockNelems) :
    udpSockFind ctx p = (udpRotate ctx p ((portOf ctx p).nextSock ctx.core.toNat),
      some ((portOf ctx p).sids ((portOf ctx p).nextSock ctx.core.toNat).toNat).toNat) := by
  unfold udpSockFind
  dsimp only
  rw [if_neg (by rw [not_or, UInt16.not_lt, UInt16.not_lt]; exact hp), if_neg (Nat.not_le.mpr hcore),
    if_neg hne, if_neg (UInt32.not_le.mpr hidx), if_neg (Nat.not_le.mpr hsid)]

theorem GoesRound.first {find : UdpCtx → UInt16 → UdpCtx × Option Nat} {ctx : UdpCtx} {p : UInt16}
    {bound : Nat → Prop} (h : GoesRound find ctx p bound) :
    ∃ sid, bound sid ∧ (find ctx p).2 = some sid := by
  obtain ⟨round, hne, hbound, hround⟩ := h
  have hlen : 0 < round.length := List.length_pos_iff.mpr hne
  have h0 := hround 0
  rw [Nat.zero_mod, List.getElem?_eq_getElem hlen] at h0
  exact ⟨round[0], hbound _ (List.getElem_mem hlen), h0⟩

/-- A lookup that always finds the same socket. -/
theorem goesRound_const {find : UdpCtx → UInt16 → UdpCtx × Option Nat} {ctx : UdpCtx} {p : UInt16}
    {bound : Nat → Prop} {Q : UdpCtx → Prop} {sid : Nat} (hQ : Q ctx)
    (hstep : ∀ c, Q c → Q (find c p).1 ∧ (find c p).2 = some sid) (hbound : bound sid) :
    GoesRound find ctx p bound := by
  refine ⟨[sid], by simp, by simpa using hbound, fun n => ?_⟩
  have hall : Q (lookups find p n ctx) := by
    induction n generalizing ctx with
    | zero => exact hQ
    | succ n ih => exact ih (hstep ctx hQ).1
  rw [(hstep _ hall).2, List.length_singleton, Nat.mod_one]
  rfl

/-- The core stands at the `t`-th of its places on a list of `len` sockets. -/
structure Placed (p : UInt16) (len ncores core nelems : Nat) (sids : Nat → UInt32) (t : Nat)
    (ctx : UdpCtx) : Prop where
  cores : ctx.ncores.toNat = ncores
  self : ctx.core.toNat = core
  elems : ctx.maps.sockNelems = nelems
  count : (portOf ctx p).nsocks.toNat = len
  list : (portOf ctx p).sids = sids
  next : ((portOf ctx p).nextSock core).toNat = core + t * ncores
  lt : core + t * ncores < len

section

variable {p : UInt16} {len ncores core nelems : Nat} {sids : Nat → UInt32}
  {find : UdpCtx → UInt16 → UdpCtx × Option Nat}

/-- The number of places of a core. -/
def places (len ncores core : Nat) : Nat := (len - 1 - core) / ncores + 1

theorem lt_places {len ncores core t : Nat} (hn : 0 < ncores) (hcore : core < len) :
    t < places len ncores core ↔ core + t * ncores < len := by
  unfold places
  rw [Nat.lt_succ_iff, Nat.le_div_iff_mul_le hn]
  omega

/-- One lookup takes the socket at the place and moves to the next one. -/
theorem Placed.lookup {ctx : UdpCtx} {t : Nat} (h : Placed p len ncores core nelems sids t ctx)
    (hp : InPortRange p) (hcore : core < ncores) (hmax : ncores ≤ maxFpCores) (hlen : len ≤ 8)
    (hsids : ∀ i, i < len → (sids i).toNat < nelems) :
    (udpSockFind ctx p).2 = some (sids (core + t * ncores)).toNat ∧
      Placed p len ncores core nelems sids ((t + 1) % places len ncores core)
        (udpSockFind ctx p).1 := by
  obtain ⟨hncores, hc, hnelems, hn, hs, hnext, hlt⟩ := h
  change ncores ≤ 16 at hmax
  have hcl : core < len := by omega
  have hidx : (portOf ctx p).nextSock ctx.core.toNat < (portOf ctx p).nsocks := by
    rw [UInt32.lt_iff_toNat_lt, hc, hnext, hn]
    exact hlt
  have hne : (portOf ctx p).nsocks ≠ 0 := by
    intro h0
    rw [h0] at hidx
    exact absurd hidx UInt32.not_lt_zero
  have hfew : (portOf ctx p).nsocks ≤ maxReusockPort :=
    UInt32.le_iff_toNat_le.mpr (by rw [hn]; exact hlen)
  have hsome := udpSockFind_some hp (show ctx.core.toNat < 16 by omega) hne
    (UInt32.lt_of_lt_of_le hidx hfew) (by rw [hs, hc, hnext, hnelems]; exact hsids _ hlt)
  rw [hsome]
  refine ⟨by rw [hs, hc, hnext], ?_⟩
  dsimp only
  have hview := udpRotate_view ctx p ((portOf ctx p).nextSock ctx.core.toNat)
  have hport : ∀ c : UdpCtx, (portOf c p) = c.maps.ports p.toNat := fun _ => rfl
  -- the place after this one
  have hmove : ((portOf (udpRotate ctx p ((portOf ctx p).nextSock ctx.core.toNat)) p).nextSock
      core).toNat = core + (t + 1) % places len ncores core * ncores := by
    have htl : t < places len ncores core := (lt_places (by omega) hcl).mpr hlt
    unfold udpRotate
    dsimp only
    by_cases hmany : (portOf ctx p).nsocks > 1
    · rw [if_pos hmany, portOf_setPort]
      dsimp only
      rw [if_pos hc.symm]
      unfold udpNextSock
      dsimp only
      have hsum : ((portOf ctx p).nextSock ctx.core.toNat + ctx.ncores.toUInt32).toNat =
          core + (t + 1) * ncores := by
        rw [UInt32.toNat_add, UInt16.toNat_toUInt32, hc, hnext, hncores, Nat.add_mul]
        omega
      by_cases hlast : core + (t + 1) * ncores < len
      · have htl' := (lt_places (by omega) hcl).mpr hlast
        rw [if_neg (UInt32.not_le.mpr (by rw [UInt32.lt_iff_toNat_lt, hsum, hn]; exact hlast)),
          hsum, Nat.mod_eq_of_lt htl']
      · have htl' : ¬ t + 1 < places len ncores core := fun hc' =>
          hlast ((lt_places (by omega) hcl).mp hc')
        have heq : t + 1 = places len ncores core := by omega
        rw [if_pos (UInt32.le_iff_toNat_le.mpr (by rw [hsum, hn]; omega)), heq, Nat.mod_self,
          Nat.zero_mul, UInt16.toNat_toUInt32]
        exact hc
    · -- a single socket has a single place
      have hone : len ≤ 1 := by
        have := UInt32.le_iff_toNat_le.mp (UInt32.not_lt.mp hmany)
        rw [hn, show (1 : UInt32).toNat = 1 from rfl] at this
        exact this
      have h0 : core = 0 := by omega
      have hp1 : places len ncores core = 1 := by
        unfold places
        rw [show len - 1 - core = 0 by omega, Nat.zero_div]
      have ht0 : t = 0 := by omega
      rw [if_neg hmany, hnext, hp1, Nat.mod_one, ht0]
  refine ⟨?_, ?_, ?_, ?_, ?_, hmove, ?_⟩
  · rw [hview.ncores, hncores]
  · rw [hview.core, hc]
  · rw [hview.table.nelems, hnelems]
  · rw [hport, hview.table.nsocks, ← hport, hn]
  · rw [hport, hview.table.sids, ← hport, hs]
  · exact (lt_places (by omega) hcl).mp (Nat.mod_lt _ (Nat.succ_pos _))

/-- **A core with a place goes round its places.** -/
theorem Placed.goesRound {ctx : UdpCtx} {t : Nat} {bound : Nat → Prop}
    (h : Placed p len ncores core nelems sids t ctx) (hp : InPortRange p) (hcore : core < ncores)
    (hmax : ncores ≤ maxFpCores) (hlen : len ≤ 8) (hsids : ∀ i, i < len → (sids i).toNat < nelems)
    (hbound : ∀ i, i < len → bound (sids i).toNat)
    (hfind : ∀ c t, Placed p len ncores core nelems sids t c → find c p = udpSockFind c p) :
    GoesRound find ctx p bound := by
  have hcl : core < len := by have := h.lt; omega
  have hpos : 0 < places len ncores core := Nat.succ_pos _
  have hall : ∀ n c t, Placed p len ncores core nelems sids t c →
      Placed p len ncores core nelems sids ((t + n) % places len ncores core)
        (lookups find p n c) := by
    intro n
    induction n with
    | zero =>
      intro c t hc
      have ht := (lt_places (by omega) hcl).mpr hc.lt
      rw [Nat.add_zero, Nat.mod_eq_of_lt ht]
      exact hc
    | succ n ih =>
      intro c t hc
      have hstep := (hc.lookup hp hcore hmax hlen hsids).2
      rw [← hfind c t hc] at hstep
      have := ih _ _ hstep
      rw [Nat.mod_add_mod, Nat.add_assoc, Nat.add_comm 1 n] at this
      exact this
  refine ⟨(List.range (places len ncores core)).map fun k =>
    (sids (core + (t + k) % places len ncores core * ncores)).toNat, ?_, ?_, fun n => ?_⟩
  · intro hnil
    have := congrArg List.length hnil
    simp only [List.length_map, List.length_range, List.length_nil] at this
    omega
  · intro sid hsid
    obtain ⟨k, -, rfl⟩ := List.mem_map.mp hsid
    exact hbound _ ((lt_places (by omega) hcl).mp (Nat.mod_lt _ hpos))
  · have hat := hall n ctx t h
    have hres := (hat.lookup hp hcore hmax hlen hsids).1
    rw [hfind _ _ hat, hres, List.length_map, List.length_range, List.getElem?_map,
      List.getElem?_range (Nat.mod_lt n hpos), Option.map_some, Nat.add_mod_mod]

end

/-! ## Reachable states -/

section

variable {ncores : UInt16} {s : UdpSlow} {ctx : UdpCtx} {p : UInt16}

/-- A core of the system looks at the maps of the system. -/
structure LooksOn (ncores : UInt16) (s : UdpSlow) (ctx : UdpCtx) : Prop where
  maps : ctx.maps = s.maps
  cores : ctx.ncores = ncores
  core : ctx.core < ncores
  few : ncores.toNat ≤ maxFpCores

theorem LooksOn.port (h : LooksOn ncores s ctx) (p : UInt16) :
    portOf ctx p = s.maps.ports p.toNat := by
  unfold portOf
  rw [h.maps]

theorem BoundTo.lt_nelems (h : PortsReach ncores.toNat s) {sid : Nat} (hb : BoundTo s p sid) :
    sid < s.maps.sockNelems := by
  have hmax := UInt32.le_iff_toNat_le.mp h.nSocks
  rw [h.nelems]
  exact Nat.lt_of_lt_of_le hb.1 hmax

/-- What is on the list of a port is bound to it. -/
theorem PortsReach.on_list (h : PortsReach ncores.toNat s) (hpos : 0 < p.toNat)
    (hlt : p.toNat < maxPort.toNat) {i : Nat} (hi : i < (s.maps.ports p.toNat).nsocks.toNat) :
    BoundTo s p ((s.maps.ports p.toNat).sids i).toNat := by
  obtain ⟨hsid, hport⟩ := h.entries p.toNat hpos hlt _ (mem_portSids.mpr ⟨i, hi, rfl⟩)
  exact ⟨UInt32.lt_iff_toNat_lt.mp hsid, UInt16.toNat_inj.mp hport⟩

/-- A core below the number of sockets has a place. -/
theorem PortsReach.placed (h : PortsReach ncores.toNat s) (hon : LooksOn ncores s ctx)
    (hlt : p.toNat < maxPort.toNat)
    (hcore : ctx.core.toNat < (s.maps.ports p.toNat).nsocks.toNat) :
    ∃ t, Placed p (s.maps.ports p.toNat).nsocks.toNat ncores.toNat ctx.core.toNat
      s.maps.sockNelems (s.maps.ports p.toNat).sids t ctx := by
  have hc := UInt16.lt_iff_toNat_lt.mp hon.core
  have hport := hon.port p
  rcases h.place p.toNat hlt ctx.core.toNat hc with heq | ⟨hidx, t, ht⟩
  · refine ⟨0, by rw [hon.cores], rfl, by rw [hon.maps], by rw [hport], by rw [hport], ?_, ?_⟩
    · have := ctx.core.toNat_lt
      rw [hport, heq, UInt32.toNat_ofNat']
      omega
    · omega
  · refine ⟨t, by rw [hon.cores], rfl, by rw [hon.maps], by rw [hport], by rw [hport],
      by rw [hport]; exact ht, ?_⟩
    rw [← ht]
    exact UInt32.lt_iff_toNat_lt.mp hidx

/-- A core that is not has only its own number. -/
theorem PortsReach.parked (h : PortsReach ncores.toNat s) (hon : LooksOn ncores s ctx)
    (hlt : p.toNat < maxPort.toNat)
    (hcore : ¬ ctx.core.toNat < (s.maps.ports p.toNat).nsocks.toNat) :
    ((s.maps.ports p.toNat).nextSock ctx.core.toNat).toNat = ctx.core.toNat := by
  have hc := UInt16.lt_iff_toNat_lt.mp hon.core
  rcases h.place p.toNat hlt ctx.core.toNat hc with heq | ⟨hidx, t, ht⟩
  · have := ctx.core.toNat_lt
    rw [heq, UInt32.toNat_ofNat']
    omega
  · have := UInt32.lt_iff_toNat_lt.mp hidx
    omega

theorem udpSockFind_low (h : ¬ minPort ≤ p) : (udpSockFind ctx p).2 = none := by
  unfold udpSockFind
  rw [if_pos (.inl (UInt16.not_le.mp h))]

theorem Ebpf.udpSockFind_low (h : ¬ minPort ≤ p) : (Ebpf.udpSockFind ctx p).2 = none := by
  unfold Ebpf.udpSockFind
  rw [if_pos (.inl (UInt16.not_le.mp h))]

theorem not_goesRound {find : UdpCtx → UInt16 → UdpCtx × Option Nat} {bound : Nat → Prop}
    (h : (find ctx p).2 = none) : ¬ GoesRound find ctx p bound := by
  intro hround
  obtain ⟨sid, -, hsid⟩ := hround.first
  rw [h] at hsid
  cases hsid

/-- The hand-written lookup on a core without a place reads the position of
its own number. -/
theorem udpSockFind_parked (hp : InPortRange p) (hcore : ctx.core.toNat < maxFpCores)
    (hne : (portOf ctx p).nsocks ≠ 0)
    (hpark : ((portOf ctx p).nextSock ctx.core.toNat).toNat = ctx.core.toNat) :
    (udpSockFind ctx p).2 =
      if ctx.core.toNat < 8 ∧ ((portOf ctx p).sids ctx.core.toNat).toNat < ctx.maps.sockNelems then
        some ((portOf ctx p).sids ctx.core.toNat).toNat
      else none := by
  unfold udpSockFind
  dsimp only
  rw [if_neg (by rw [not_or, UInt16.not_lt, UInt16.not_lt]; exact hp), if_neg (Nat.not_le.mpr hcore),
    if_neg hne]
  by_cases hsmall : ctx.core.toNat < 8
  · rw [if_neg (UInt32.not_le.mpr (UInt32.lt_iff_toNat_lt.mpr (by rw [hpark]; exact hsmall))), hpark]
    by_cases hsid : ((portOf ctx p).sids ctx.core.toNat).toNat < ctx.maps.sockNelems
    · rw [if_neg (Nat.not_le.mpr hsid), if_pos ⟨hsmall, hsid⟩]
    · rw [if_pos (Nat.not_lt.mp hsid), if_neg fun hc => hsid hc.2]
  · rw [if_pos (UInt32.le_iff_toNat_le.mpr (by
      rw [hpark]; exact Nat.not_lt.mp hsmall)), if_neg fun hc => hsmall hc.1]

theorem SameView.trans {c₁ c₂ c₃ : UdpCtx} (h₁ : SameView c₁ c₂) (h₂ : SameView c₂ c₃) :
    SameView c₁ c₃ :=
  ⟨h₂.ncores.trans h₁.ncores, h₂.core.trans h₁.core, h₁.table.trans h₂.table⟩

/-- A core without a place, after some lookups. -/
structure Parked (p : UInt16) (ctx c : UdpCtx) : Prop where
  view : SameView ctx c
  next : ((portOf c p).nextSock ctx.core.toNat).toNat = ctx.core.toNat

/-- It stays where it is, and reads the same number again. -/
theorem Parked.lookup {c : UdpCtx} (h : Parked p ctx c) (hp : InPortRange p)
    (hcore : ctx.core.toNat < 8) (hne : (portOf ctx p).nsocks ≠ 0)
    (hbehind : (portOf ctx p).nsocks.toNat ≤ ctx.core.toNat)
    (hsid : ((portOf ctx p).sids ctx.core.toNat).toNat < ctx.maps.sockNelems) :
    Parked p ctx (udpSockFind c p).1 ∧
      (udpSockFind c p).2 = some ((portOf ctx p).sids ctx.core.toNat).toNat := by
  obtain ⟨hview, hnext⟩ := h
  have hn : (portOf c p).nsocks = (portOf ctx p).nsocks := hview.table.nsocks _
  have hs : (portOf c p).sids = (portOf ctx p).sids := hview.table.sids _
  rw [← hview.core] at hnext
  have hsmall : (portOf c p).nextSock c.core.toNat < maxReusockPort := by
    rw [UInt32.lt_iff_toNat_lt, hnext, hview.core]
    exact hcore
  have hfind := udpSockFind_some hp (by rw [hview.core]; exact Nat.lt_of_lt_of_le hcore (by decide))
    (by rw [hn]; exact hne) hsmall (by rw [hs, hnext, hview.table.nelems, hview.core]; exact hsid)
  rw [hfind]
  refine ⟨⟨hview.trans (udpRotate_view c p _), ?_⟩, by rw [hs, hnext, hview.core]⟩
  unfold udpRotate
  dsimp only
  rw [← hview.core]
  split
  · rw [portOf_setPort]
    dsimp only
    rw [if_pos rfl]
    unfold udpNextSock
    dsimp only
    have hsum : ((portOf c p).nextSock c.core.toNat + c.ncores.toUInt32).toNat =
        c.core.toNat + c.ncores.toNat := by
      have := c.ncores.toNat_lt
      have := c.core.toNat_lt
      rw [UInt32.toNat_add, UInt16.toNat_toUInt32, hnext]
      omega
    rw [if_pos, UInt16.toNat_toUInt32]
    rw [ge_iff_le, UInt32.le_iff_toNat_le, hsum, hn, hview.core]
    omega
  · exact hnext

/-- **The hand-written lookup goes round** the sockets of a port exactly when
the core has a place, or the position of its number happens to name a socket
of the port. -/
theorem udpSockFind_round_iff (h : PortsReach ncores.toNat s) (hon : LooksOn ncores s ctx)
    (hlt : p < maxPort) (hsome : ∃ sid, BoundTo s p sid) :
    GoesRound udpSockFind ctx p (BoundTo s p) ↔ minPort ≤ p ∧
      (ctx.core.toNat < (portOf ctx p).nsocks.toNat ∨
        ctx.core.toNat < 8 ∧ BoundTo s p ((portOf ctx p).sids ctx.core.toNat).toNat) := by
  have hlt' : p.toNat < maxPort.toNat := UInt16.lt_iff_toNat_lt.mp hlt
  have hc := UInt16.lt_iff_toNat_lt.mp hon.core
  have hfew := hon.few
  have hport := hon.port p
  by_cases hmin : minPort ≤ p
  · have hin : InPortRange p := ⟨hmin, UInt16.le_of_lt hlt⟩
    have hpos : 0 < p.toNat := Nat.lt_of_lt_of_le (by decide) (UInt16.le_iff_toNat_le.mp hmin)
    obtain ⟨sid, hsid⟩ := hsome
    have hne : (portOf ctx p).nsocks ≠ 0 := by
      rw [hport]
      exact h.bound p.toNat hpos hlt' sid hsid.1 (by rw [hsid.2])
    by_cases hcore : ctx.core.toNat < (portOf ctx p).nsocks.toNat
    · refine ⟨fun _ => ⟨hmin, .inl hcore⟩, fun _ => ?_⟩
      rw [hport] at hcore
      obtain ⟨t, hplaced⟩ := h.placed hon hlt' hcore
      have hlen : (s.maps.ports p.toNat).nsocks.toNat ≤ 8 :=
        UInt32.le_iff_toNat_le.mp (h.few p.toNat hlt')
      exact hplaced.goesRound hin hc hfew hlen
        (fun i hi => (h.on_list hpos hlt' hi).lt_nelems h)
        (fun i hi => h.on_list hpos hlt' hi) fun _ _ _ => rfl
    · have hpark : ((portOf ctx p).nextSock ctx.core.toNat).toNat = ctx.core.toNat := by
        rw [hport] at hcore ⊢
        exact h.parked hon hlt' hcore
      have hres := udpSockFind_parked hin (Nat.lt_of_lt_of_le hc hfew) hne hpark
      constructor
      · intro hround
        obtain ⟨sid', hb, hfirst⟩ := hround.first
        rw [hres] at hfirst
        split at hfirst
        · next hok =>
          cases hfirst
          exact ⟨hmin, .inr ⟨hok.1, hb⟩⟩
        · cases hfirst
      · rintro ⟨-, hno | ⟨hsmall, hb⟩⟩
        · exact absurd hno hcore
        · -- nothing moves any more
          have hnel : ((portOf ctx p).sids ctx.core.toNat).toNat < ctx.maps.sockNelems := by
            rw [hon.maps]
            exact hb.lt_nelems h
          exact goesRound_const (Q := Parked p ctx) ⟨SameView.refl ctx, hpark⟩
            (fun c hc => hc.lookup hin hsmall hne (Nat.not_lt.mp hcore) hnel) hb
  · exact ⟨fun hround => absurd hround (not_goesRound (udpSockFind_low hmin)),
      fun hc => absurd hc.1 hmin⟩

/-- With a single socket the program does not look at the place. -/
theorem Ebpf.udpSockFind_single (hp : InPortRange p) (hcore : ctx.core.toNat < maxFpCores)
    (hone : (portOf ctx p).nsocks = 1) (hsid : ((portOf ctx p).sids 0).toNat < ctx.maps.sockNelems) :
    Ebpf.udpSockFind ctx p = (ctx, some ((portOf ctx p).sids 0).toNat) := by
  have hone' : (ctx.maps.ports p.toNat).nsocks = 1 := hone
  have hrot : udpRotate ctx p 0 = ctx := by
    unfold udpRotate
    dsimp only
    rw [hone, if_neg (by decide)]
  unfold Ebpf.udpSockFind
  rw [portMapLookup_eq, if_neg (by rw [not_or, UInt16.not_lt, UInt16.not_lt]; exact hp),
    if_neg (Nat.not_le.mpr hcore)]
  dsimp only
  rw [hone', if_neg (by decide), if_pos rfl, if_neg (by decide), hrot, sockMapLookup_eq]
  exact if_neg (Nat.not_le.mpr hsid)

/-- With several the program finds none for a core without a place. -/
theorem Ebpf.udpSockFind_parked (hone : (portOf ctx p).nsocks ≠ 1)
    (hpark : ((portOf ctx p).nextSock ctx.core.toNat).toNat = ctx.core.toNat)
    (hbehind : (portOf ctx p).nsocks.toNat ≤ ctx.core.toNat) :
    (Ebpf.udpSockFind ctx p).2 = none := by
  have hone' : ¬ (ctx.maps.ports p.toNat).nsocks = 1 := hone
  unfold Ebpf.udpSockFind
  rw [portMapLookup_eq]
  dsimp only
  rw [if_neg hone']
  split
  · rfl
  · split
    · rfl
    · split
      · rfl
      · rw [if_pos]
        refine .inl (UInt32.le_iff_toNat_le.mpr ?_)
        show (portOf ctx p).nsocks.toNat ≤ ((portOf ctx p).nextSock ctx.core.toNat).toNat
        rw [hpark]
        exact hbehind

/-- On a place the two lookups are one. -/
theorem Placed.same_lookup {len ncores core nelems : Nat} {sids : Nat → UInt32} {t : Nat}
    (h : Placed p len ncores core nelems sids t ctx) (hlen : len ≤ 8) :
    Ebpf.udpSockFind ctx p = udpSockFind ctx p := by
  have hnext := h.next
  have hlt := h.lt
  rw [← h.self] at hnext
  refine Ebpf.udpSockFind_eq ⟨UInt32.le_iff_toNat_le.mpr (by rw [h.count]; exact hlen), fun hone => ?_,
    .inr (.inl (UInt32.lt_iff_toNat_lt.mpr (by rw [h.count, hnext, h.self]; exact hlt)))⟩
  have hcount := h.count
  rw [hone, show (1 : UInt32).toNat = 1 from rfl] at hcount
  apply UInt32.toNat_inj.mp
  rw [hnext, h.self, show (0 : UInt32).toNat = 0 from rfl]
  omega

/-- **The program's lookup goes round** the sockets of a port exactly when
the core has a place, or there is a single socket. -/
theorem Ebpf.udpSockFind_round_iff (h : PortsReach ncores.toNat s) (hon : LooksOn ncores s ctx)
    (hlt : p < maxPort) :
    GoesRound Ebpf.udpSockFind ctx p (BoundTo s p) ↔ minPort ≤ p ∧
      (ctx.core.toNat < (portOf ctx p).nsocks.toNat ∨ (portOf ctx p).nsocks = 1) := by
  have hlt' : p.toNat < maxPort.toNat := UInt16.lt_iff_toNat_lt.mp hlt
  have hc := UInt16.lt_iff_toNat_lt.mp hon.core
  have hfew := hon.few
  have hport := hon.port p
  by_cases hmin : minPort ≤ p
  · have hin : InPortRange p := ⟨hmin, UInt16.le_of_lt hlt⟩
    have hpos : 0 < p.toNat := Nat.lt_of_lt_of_le (by decide) (UInt16.le_iff_toNat_le.mp hmin)
    by_cases hcore : ctx.core.toNat < (portOf ctx p).nsocks.toNat
    · refine ⟨fun _ => ⟨hmin, .inl hcore⟩, fun _ => ?_⟩
      rw [hport] at hcore
      obtain ⟨t, hplaced⟩ := h.placed hon hlt' hcore
      have hlen : (s.maps.ports p.toNat).nsocks.toNat ≤ 8 :=
        UInt32.le_iff_toNat_le.mp (h.few p.toNat hlt')
      exact hplaced.goesRound hin hc hfew hlen
        (fun i hi => (h.on_list hpos hlt' hi).lt_nelems h)
        (fun i hi => h.on_list hpos hlt' hi) fun _ _ hp => hp.same_lookup hlen
    · by_cases hone : (portOf ctx p).nsocks = 1
      · refine ⟨fun _ => ⟨hmin, .inr hone⟩, fun _ => ?_⟩
        have hb : BoundTo s p ((portOf ctx p).sids 0).toNat := by
          rw [hport] at hone ⊢
          exact h.on_list hpos hlt' (by rw [hone]; decide)
        have hsingle := Ebpf.udpSockFind_single hin (Nat.lt_of_lt_of_le hc hfew) hone
          (by rw [hon.maps]; exact hb.lt_nelems h)
        exact goesRound_const (Q := fun c => c = ctx) rfl
          (by rintro c rfl; rw [hsingle]; exact ⟨rfl, rfl⟩) hb
      · have hpark : ((portOf ctx p).nextSock ctx.core.toNat).toNat = ctx.core.toNat := by
          rw [hport] at hcore ⊢
          exact h.parked hon hlt' hcore
        have hnone := Ebpf.udpSockFind_parked hone hpark (Nat.not_lt.mp hcore)
        exact ⟨fun hround => absurd hround (not_goesRound hnone),
          fun hc => absurd hc.2 (not_or.mpr ⟨hcore, hone⟩)⟩
  · exact ⟨fun hround => absurd hround (not_goesRound (Ebpf.udpSockFind_low hmin)),
      fun hc => absurd hc.1 hmin⟩

end

/-- **When a core finds the sockets of a port.** After every run that stays
inside the maps and binds only sockets that were handed out, and for every
bound port inside the port map, each version of the lookup goes round sockets of the port
exactly when the port is not below `MIN_PORT` and the core's number is below
the number of sockets, apart from one case each: a single socket for the
program, a lucky reading behind the list for the hand-written handler. -/
theorem udp_sock_find_round_iff (ncores : UInt16) (hcores : ncores.toNat ≤ maxFpCores)
    (m : UdpMaps) (nFpCores localIp : UInt32) (actxs : Nat → ActxSlow) (acts : List UdpAct)
    (hsame : ∀ act ∈ acts, OnCores ncores act)
    (hin : ∀ before act after, acts = before ++ act :: after →
      StepIn (udpRun (initUdpSlowContext m nFpCores localIp actxs) before) act)
    (ctx : UdpCtx)
    (hon : LooksOn ncores (udpRun (initUdpSlowContext m nFpCores localIp actxs) acts) ctx)
    (p : UInt16) (hlt : p < maxPort)
    (hsome : ∃ sid, BoundTo (udpRun (initUdpSlowContext m nFpCores localIp actxs) acts) p sid) :
    let bound := BoundTo (udpRun (initUdpSlowContext m nFpCores localIp actxs) acts) p
    let port := portOf ctx p
    (GoesRound udpSockFind ctx p bound ↔ minPort ≤ p ∧
      (ctx.core.toNat < port.nsocks.toNat ∨
        ctx.core.toNat < 8 ∧ bound (port.sids ctx.core.toNat).toNat)) ∧
    (GoesRound Ebpf.udpSockFind ctx p bound ↔ minPort ≤ p ∧
      (ctx.core.toNat < port.nsocks.toNat ∨ port.nsocks = 1)) := by
  intro bound port
  have hinit := initUdpSlowContext_reach ncores.toNat hcores m nFpCores localIp actxs
  have hreach := udpRun_reach hinit hsame fun before act after h => (hin before act after h).handedOut
  exact ⟨udpSockFind_round_iff hreach hon hlt hsome, Ebpf.udpSockFind_round_iff hreach hon hlt⟩

/-- On core 0 of two, after the second socket was bound to 2000, both
versions go round. -/
theorem udp_sock_find_round_core0 :
    GoesRound udpSockFind (datagramTo2000 0 secondBound.maps) 2000 (BoundTo secondBound 2000) ∧
      GoesRound Ebpf.udpSockFind (datagramTo2000 0 secondBound.maps) 2000
        (BoundTo secondBound 2000) := by
  have hin : ∀ before act after, bindSecond = before ++ act :: after →
      StepIn (udpRun (initUdpSlowContext blankMaps 2 7 freshActx) before) act := by
    intro before act after hacts
    -- only the third request binds
    rcases before with - | ⟨b₀, - | ⟨b₁, - | ⟨b₂, before⟩⟩⟩
    · cases hacts
      exact ⟨(insideMaps_iff rfl _).mpr trivial, nofun⟩
    · cases hacts
      exact ⟨(insideMaps_iff rfl _).mpr trivial, nofun⟩
    · cases hacts
      refine ⟨(insideMaps_iff rfl _).mpr fun _ => ⟨by decide, by decide, nofun⟩, ?_⟩
      rintro sid nr x ⟨-, rfl, -⟩
      decide
    · have hlen := congrArg List.length hacts
      simp [bindSecond] at hlen
  have hsame : ∀ act ∈ bindSecond, OnCores 2 act := by
    intro act hact
    simp only [bindSecond, List.mem_cons, List.not_mem_nil, or_false] at hact
    rcases hact with rfl | rfl | rfl
    all_goals trivial
  have h := udp_sock_find_round_iff 2 (by decide) blankMaps 2 7 freshActx bindSecond hsame hin
    (datagramTo2000 0 secondBound.maps) ⟨rfl, rfl, by decide, by decide⟩ 2000 (by decide)
    ⟨1, by decide, by decide⟩
  exact ⟨h.1.mpr ⟨by decide, .inl (by decide)⟩, h.2.mpr ⟨by decide, .inl (by decide)⟩⟩

/-- **Core 1 of two misses the port.** Port 2000 has one socket, number 1,
and the hand-written lookup of the second core gives socket 0. -/
theorem udp_sock_find_core1_misses :
    BoundTo secondBound 2000 1 ∧ ¬ BoundTo secondBound 2000 0 ∧
      (udpSockFind (datagramTo2000 1 secondBound.maps) 2000).2 = some 0 ∧
      ¬ GoesRound udpSockFind (datagramTo2000 1 secondBound.maps) 2000
        (BoundTo secondBound 2000) := by
  have hnot : ¬ BoundTo secondBound 2000 0 := by
    rintro ⟨-, hport⟩
    exact absurd hport (by decide)
  have hfind : (udpSockFind (datagramTo2000 1 secondBound.maps) 2000).2 = some 0 := by decide
  refine ⟨⟨by decide, by decide⟩, hnot, hfind, fun hround => ?_⟩
  obtain ⟨sid, hb, hfirst⟩ := hround.first
  rw [hfind] at hfirst
  cases hfirst
  exact hnot hb

end Chamelio.Udp
