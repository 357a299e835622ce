import Chamelio.Tcp.SlowReqSpec

/-!
# The table of bound ports

`bound_ports` should say, for every port, which sockets have it as their
local port. Reservations are made by `sock_autobind_port` and given back by
`tcp_sock_close_final` and a failed connect; the port itself is a field of
the socket, and `app_bind` writes it without a word to the table.

A child of a listener has its listener's port and no reservation. Nothing in
the slow path's state says later that a socket was once a child, so the
system carries the set of them along (`PortSys.child`): the sockets no
application asked for.

`PortInv` is the invariant; `PortOk` is the condition on binds (the port
asked for is the one that is reserved) and on requests for closed sockets.
-/

namespace Chamelio.Tcp

open Chamelio.Lib Chamelio.Util Chamelio.Pkt Chamelio.Fast

/-- The ids of a port. -/
def portIds (p : TcpPort) : List UInt32 := (List.range p.nsocks).map p.sids

/-- The slow path and the sockets that came as children. -/
structure PortSys where
  ctx : TcpSlowCtx
  child : Nat → Bool

/-- The sockets from `m` up to `n` are children. -/
def grown (child : Nat → Bool) (m n : Nat) : Nat → Bool :=
  fun i => child i || (decide (m ≤ i) && decide (i < n))

def SlowAct.isNewSock : SlowAct → Bool
  | .newSock _ _ _ => true
  | _ => false

def portStep (s : PortSys) (act : SlowAct) : PortSys × Unit :=
  let ctx := slowNext s.ctx act
  ({ ctx, child := if act.isNewSock then s.child else grown s.child s.ctx.nSocks ctx.nSocks }, ())

/-- The sockets that should have a reservation for `p`. -/
def Owner (child : Nat → Bool) (ctx : TcpSlowCtx) (i : Nat) (p : UInt16) : Prop :=
  child i = false ∧ (ctx.sock i).state ≠ .closed ∧ (ctx.sock i).localPort = p

structure PortInv (child : Nat → Bool) (ctx : TcpSlowCtx) : Prop where
  base : Base ctx
  exact : ∀ p : UInt16, p ≠ 0 → ∀ id, id ∈ portIds (ctx.boundPorts p.toNat) ↔
    ∃ i, i < ctx.nSocks ∧ id = UInt32.ofNat i ∧ Owner child ctx i p
  one : ∀ p : UInt16, p ≠ 0 → (ctx.boundPorts p.toNat).nsocks ≤ 1
  low : ∀ i, i < ctx.nSocks → child i = false → (ctx.sock i).localPort.toNat ≤ maxPort
  kids : ∀ i, i < ctx.nSocks → child i = true → (ctx.sock i).localPort ≠ 0 ∧
    (ctx.sockMeta i).autoBound = false
  young : ∀ i, ctx.nSocks ≤ i → child i = false

theorem SlowInit.ports {ctx : TcpSlowCtx} (h : SlowInit ctx) : PortInv (fun _ => false) ctx := by
  refine ⟨h.base, ?_, ?_, ?_, ?_, fun _ _ => rfl⟩
  · intro p _ id
    unfold portIds
    rw [h.boundPorts]
    constructor
    · exact nofun
    · rintro ⟨i, hi, -, -⟩
      rw [h.nSocks] at hi
      exact absurd hi (Nat.not_lt_zero i)
  · intro p _
    rw [h.boundPorts]
    exact Nat.zero_le _
  · intro i hi
    rw [h.nSocks] at hi
    exact absurd hi (Nat.not_lt_zero i)
  · intro i hi
    rw [h.nSocks] at hi
    exact absurd hi (Nat.not_lt_zero i)

/-! ## One port -/

theorem portDrop_absent {p : TcpPort} {x : UInt32} (h : x ∉ portIds p) : portDrop p x = p := by
  unfold portDrop
  rw [List.find?_eq_none.mpr]
  intro i hi he
  exact h (List.mem_map.mpr ⟨i, hi, eq_of_beq he⟩)

theorem portDrop_single {p : TcpPort} {x : UInt32} (h : p.nsocks = 1) (hx : p.sids 0 = x) :
    (portDrop p x).nsocks = 0 := by
  unfold portDrop
  rw [h, List.range_one, List.find?_cons_of_pos (by rw [hx]; exact beq_self_eq_true x)]

theorem portIds_single {p : TcpPort} (h : p.nsocks = 1) : portIds p = [p.sids 0] := by
  unfold portIds
  rw [h]
  rfl

theorem portIds_none {p : TcpPort} (h : p.nsocks = 0) : portIds p = [] := by
  unfold portIds
  rw [h]
  rfl

/-- Dropping an id from a port with one entry at most. -/
theorem mem_portIds_portDrop {p : TcpPort} (h : p.nsocks ≤ 1) (x id : UInt32) :
    id ∈ portIds (portDrop p x) ↔ id ∈ portIds p ∧ id ≠ x := by
  by_cases hx : x ∈ portIds p
  · have h1 : p.nsocks = 1 := by
      rcases Nat.le_one_iff_eq_zero_or_eq_one.mp h with h0 | h1
      · rw [portIds_none h0] at hx
        exact absurd hx List.not_mem_nil
      · exact h1
    rw [portIds_single h1, List.mem_singleton] at hx
    rw [portIds_none (portDrop_single h1 hx.symm), portIds_single h1, List.mem_singleton]
    refine ⟨nofun, ?_⟩
    rintro ⟨he, hne⟩
    exact absurd (he.trans hx.symm) hne
  · rw [portDrop_absent hx]
    refine ⟨fun hid => ⟨hid, ?_⟩, fun hid => hid.1⟩
    rintro rfl
    exact hx hid

theorem portDrop_nsocks_le (p : TcpPort) (x : UInt32) : (portDrop p x).nsocks ≤ p.nsocks := by
  unfold portDrop
  split
  · exact Nat.le_refl _
  · exact Nat.sub_le _ _

theorem boundDrop_nsocks_le (bound : Nat → TcpPort) (port : UInt16) (x : UInt32) (p : Nat) :
    (boundDrop bound port x p).nsocks ≤ (bound p).nsocks := by
  unfold boundDrop
  split
  · exact Nat.le_refl _
  · dsimp only
    split
    · exact portDrop_nsocks_le _ _
    · exact Nat.le_refl _

/-- Dropping an id from the port table, at the one port that may hold it. -/
theorem mem_portIds_boundDrop {bound : Nat → TcpPort} {port : UInt16} {x : UInt32} {p : UInt16}
    (hone : (bound p.toNat).nsocks ≤ 1)
    (honly : x ∈ portIds (bound p.toNat) → p = port ∧ p ≠ 0 ∧ p.toNat ≤ maxPort) (id : UInt32) :
    id ∈ portIds (boundDrop bound port x p.toNat) ↔ id ∈ portIds (bound p.toNat) ∧ id ≠ x := by
  -- away from the port, the id was not there to begin with
  have hkeep : p ≠ port ∨ p = 0 ∨ p.toNat > maxPort → ∀ id, id ∈ portIds (bound p.toNat) ↔
      id ∈ portIds (bound p.toNat) ∧ id ≠ x := by
    intro hp id
    refine ⟨fun hid => ⟨hid, ?_⟩, fun hid => hid.1⟩
    rintro rfl
    obtain ⟨h₁, h₂, h₃⟩ := honly hid
    rcases hp with hp | hp | hp
    · exact hp h₁
    · exact h₂ hp
    · omega
  unfold boundDrop
  by_cases hbad : port = 0 ∨ port.toNat > maxPort
  · rw [if_pos hbad]
    apply hkeep
    by_cases hp : p = port
    · rw [hp]
      exact .inr hbad
    · exact .inl hp
  · rw [if_neg hbad]
    by_cases hp : p = port
    · rw [if_pos (by rw [hp])]
      exact mem_portIds_portDrop hone x id
    · rw [if_neg (fun he => hp (UInt16.toNat_inj.mp he))]
      exact hkeep (.inl hp) id

/-! ## The table as a whole -/

section table

variable {child child' : Nat → Bool} {a b : TcpSlowCtx}

/-- Reservations and their owners change in step. -/
theorem PortInv.keep (h : PortInv child a) (hbase : Base b) (hn : b.nSocks = a.nSocks)
    (hbound : b.boundPorts = a.boundPorts)
    (hown : ∀ i, i < a.nSocks → child i = false →
      (((b.sock i).state = .closed ↔ (a.sock i).state = .closed) ∧
        ((a.sock i).state ≠ .closed → (b.sock i).localPort = (a.sock i).localPort)) ∧
      (b.sock i).localPort.toNat ≤ maxPort)
    (hkids : ∀ i, i < a.nSocks → child i = true → (b.sock i).localPort ≠ 0 ∧
      (b.sockMeta i).autoBound = false) : PortInv child b := by
  refine ⟨hbase, ?_, ?_, ?_, ?_, ?_⟩
  · intro p hp id
    rw [hbound, h.exact p hp id, hn]
    constructor
    · rintro ⟨i, hi, he, hc, hst, hport⟩
      obtain ⟨⟨hcl, hlp⟩, -⟩ := hown i hi hc
      exact ⟨i, hi, he, hc, fun hb => hst (hcl.mp hb), (hlp hst).trans hport⟩
    · rintro ⟨i, hi, he, hc, hst, hport⟩
      obtain ⟨⟨hcl, hlp⟩, -⟩ := hown i hi hc
      have hst' : (a.sock i).state ≠ .closed := fun ha => hst (hcl.mpr ha)
      exact ⟨i, hi, he, hc, hst', (hlp hst').symm.trans hport⟩
  · rw [hbound]
    exact h.one
  · intro i hi hc
    rw [hn] at hi
    exact (hown i hi hc).2
  · intro i hi hc
    rw [hn] at hi
    exact hkids i hi hc
  · intro i hi
    rw [hn] at hi
    exact h.young i hi

theorem key_port {s t : TcpSock} (h : s.key = t.key) : s.localPort = t.localPort :=
  congrArg SockKey.localPort h

theorem PortInv.same (h : PortInv child a) (hs : SameCore a b) : PortInv child b := by
  refine h.keep (h.base.same hs) hs.nSocks hs.boundPorts ?_ ?_
  · intro i hi hc
    rw [key_state (hs.key i), key_port (hs.key i)]
    exact ⟨⟨Iff.rfl, fun _ => rfl⟩, h.low i hi hc⟩
  · intro i hi hc
    rw [key_port (hs.key i), hs.autoBound]
    exact h.kids i hi hc

theorem PortInv.rekeyed {sid : Nat} {k : SockKey} (h : PortInv child a) (hbase : Base b)
    (hr : Rekeyed a b sid k)
    (hk : sid < a.nSocks → child sid = false →
      ((k.state = .closed ↔ (a.sock sid).state = .closed) ∧
        ((a.sock sid).state ≠ .closed → k.localPort = (a.sock sid).localPort)) ∧
      k.localPort.toNat ≤ maxPort)
    (hkid : sid < a.nSocks → child sid = true → k.localPort ≠ 0) : PortInv child b := by
  refine h.keep hbase hr.nSocks hr.boundPorts ?_ ?_
  · intro i hi hc
    by_cases hs : i = sid
    · rw [hs] at hi hc ⊢
      rw [show (b.sock sid).state = k.state from congrArg SockKey.state hr.at,
        show (b.sock sid).localPort = k.localPort from congrArg SockKey.localPort hr.at]
      exact hk hi hc
    · have hkey := (hr.key i).trans (if_neg hs)
      rw [key_state hkey, key_port hkey]
      exact ⟨⟨Iff.rfl, fun _ => rfl⟩, h.low i hi hc⟩
  · intro i hi hc
    rw [hr.sockMeta]
    by_cases hs : i = sid
    · rw [hs] at hi hc ⊢
      rw [show (b.sock sid).localPort = k.localPort from congrArg SockKey.localPort hr.at]
      exact ⟨hkid hi hc, (h.kids sid hi hc).2⟩
    · rw [key_port ((hr.key i).trans (if_neg hs))]
      exact h.kids i hi hc

/-- An owner's id stands in the row of its port and in no other. -/
theorem PortInv.only (h : PortInv child a) {sid : Nat} (hlt : sid < a.nSocks) {p : UInt16}
    (hp : p ≠ 0) (hin : UInt32.ofNat sid ∈ portIds (a.boundPorts p.toNat)) :
    Owner child a sid p := by
  obtain ⟨i, hi, he, ho⟩ := (h.exact p hp _).mp hin
  rw [ofNat_sock_inj (h.base.lt hlt) (h.base.lt hi) he]
  exact ho

/-- **A reservation is given back** by a socket that no longer owns it. -/
theorem PortInv.released {sid : Nat} (h : PortInv child a) (hlt : sid < a.nSocks)
    (hbase : Base b) (hn : b.nSocks = a.nSocks)
    (hbound : b.boundPorts = boundDrop a.boundPorts (a.sock sid).localPort (a.sock sid).id)
    (hkey : ∀ i, i ≠ sid → (b.sock i).key = (a.sock i).key)
    (hsid : (b.sock sid).state = .closed ∨ (b.sock sid).localPort = 0)
    (hlow : child sid = false → (b.sock sid).localPort.toNat ≤ maxPort)
    (hkid : child sid = true → (b.sock sid).localPort ≠ 0)
    (hauto : ∀ i, child i = true → (a.sockMeta i).autoBound = false →
      (b.sockMeta i).autoBound = false) : PortInv child b := by
  rw [h.base.id sid hlt] at hbound
  refine ⟨hbase, ?_, ?_, ?_, ?_, ?_⟩
  · intro p hp id
    rw [hbound, mem_portIds_boundDrop (h.one p hp) ?_ id, h.exact p hp id, hn]
    · constructor
      · rintro ⟨⟨i, hi, he, ho⟩, hne⟩
        have hs : i ≠ sid := by
          rintro rfl
          exact hne he
        refine ⟨i, hi, he, ho.1, ?_, ?_⟩
        · rw [key_state (hkey i hs)]
          exact ho.2.1
        · rw [key_port (hkey i hs)]
          exact ho.2.2
      · rintro ⟨i, hi, he, hc, hst, hport⟩
        have hs : i ≠ sid := by
          rintro rfl
          rcases hsid with hs | hs
          · exact hst hs
          · exact hp (hport.symm.trans hs)
        rw [key_state (hkey i hs)] at hst
        rw [key_port (hkey i hs)] at hport
        refine ⟨⟨i, hi, he, hc, hst, hport⟩, ?_⟩
        rw [he]
        exact fun hx => hs (ofNat_sock_inj (h.base.lt hi) (h.base.lt hlt) hx)
    · intro hin
      have ho := h.only hlt hp hin
      refine ⟨ho.2.2.symm, hp, ?_⟩
      rw [← ho.2.2]
      exact h.low sid hlt ho.1
  · intro p hp
    rw [hbound]
    exact Nat.le_trans (boundDrop_nsocks_le _ _ _ _) (h.one p hp)
  · intro i hi hc
    rw [hn] at hi
    by_cases hs : i = sid
    · rw [hs] at hc ⊢
      exact hlow hc
    · rw [key_port (hkey i hs)]
      exact h.low i hi hc
  · intro i hi hc
    rw [hn] at hi
    refine ⟨?_, hauto i hc (h.kids i hi hc).2⟩
    by_cases hs : i = sid
    · rw [hs] at hc ⊢
      exact hkid hc
    · rw [key_port (hkey i hs)]
      exact (h.kids i hi hc).1
  · intro i hi
    rw [hn] at hi
    exact h.young i hi

theorem PortInv.close {sid : Nat} (h : PortInv child a) (hlt : sid < a.nSocks) :
    PortInv child (tcpSockCloseFinal a sid) := by
  have hport : ((tcpSockCloseFinal a sid).sock sid).localPort = (a.sock sid).localPort := by
    rw [tcpSockCloseFinal_sock, if_pos rfl]
    rfl
  refine h.released hlt (h.base.close hlt) (tcpSockCloseFinal_nSocks a sid)
    (tcpSockCloseFinal_boundPorts a sid) ?_ (.inl ?_) ?_ ?_ ?_
  · intro i hi
    rw [tcpSockCloseFinal_sock, if_neg hi]
  · rw [tcpSockCloseFinal_sock, if_pos rfl]
    rfl
  · intro hc
    rw [hport]
    exact h.low sid hlt hc
  · intro hc
    rw [hport]
    exact (h.kids sid hlt hc).1
  · intro i _ hi
    rw [tcpSockCloseFinal_sockMeta]
    split
    · rfl
    · exact hi

theorem PortInv.fail {sid : Nat} (h : PortInv child a) (hlt : sid < a.nSocks)
    (hlive : (a.sock sid).state ≠ .closed) (hf : Failed a b sid) : PortInv child b := by
  have hkey : ∀ i, i ≠ sid → (b.sock i).key = (a.sock i).key :=
    fun i hi => (hf.sock i).trans (if_neg hi)
  have hk := (hf.sock sid).trans (if_pos rfl)
  have hauto : ∀ i, child i = true → (a.sockMeta i).autoBound = false →
      (b.sockMeta i).autoBound = false := by
    intro i _ hi
    rw [hf.autoBound]
    split
    · rfl
    · exact hi
  rw [h.base.meta_eq hlt] at hk
  cases hab : (a.sockMeta sid).autoBound with
  | true =>
    rw [hab] at hk
    have hport : (b.sock sid).localPort = 0 := congrArg SockKey.localPort hk
    have hbound := hf.boundPorts
    rw [h.base.meta_eq hlt, hab] at hbound
    refine h.released hlt (h.base.fail hlt hf) hf.nSocks hbound hkey (.inr hport) ?_ ?_ hauto
    · intro _
      rw [hport]
      exact Nat.zero_le _
    · intro hc
      rw [(h.kids sid hlt hc).2] at hab
      cases hab
  | false =>
    rw [hab] at hk
    have hport : (b.sock sid).localPort = (a.sock sid).localPort := congrArg SockKey.localPort hk
    have hst : (b.sock sid).state = .init := congrArg SockKey.state hk
    have hbound := hf.boundPorts
    rw [h.base.meta_eq hlt, hab] at hbound
    refine h.keep (h.base.fail hlt hf) hf.nSocks hbound ?_ ?_
    · intro i hi hc
      by_cases hs : i = sid
      · rw [hs] at hc ⊢
        rw [hst, hport]
        exact ⟨⟨⟨nofun, fun hcl => absurd hcl hlive⟩, fun _ => rfl⟩, h.low sid hlt hc⟩
      · rw [key_state (hkey i hs), key_port (hkey i hs)]
        exact ⟨⟨Iff.rfl, fun _ => rfl⟩, h.low i hi hc⟩
    · intro i hi hc
      refine ⟨?_, hauto i hc (h.kids i hi hc).2⟩
      by_cases hs : i = sid
      · rw [hs] at hc ⊢
        rw [hport]
        exact (h.kids sid hlt hc).1
      · rw [key_port (hkey i hs)]
        exact (h.kids i hi hc).1

end table

/-! ## The transitions -/

section transitions

variable {child : Nat → Bool} {a b : TcpSlowCtx}

theorem grown_self (child : Nat → Bool) (n : Nat) : grown child n n = child := by
  funext i
  unfold grown
  by_cases h : n ≤ i
  · rw [decide_eq_false (Nat.not_lt_of_le h), Bool.and_false, Bool.or_false]
  · rw [decide_eq_false h, Bool.false_and, Bool.or_false]

theorem grown_trans (child : Nat → Bool) {l m n : Nat} (h₁ : l ≤ m) (h₂ : m ≤ n) :
    grown (grown child l m) m n = grown child l n := by
  funext i
  unfold grown
  rw [Bool.or_assoc]
  congr 1
  rw [Bool.eq_iff_iff]
  simp only [Bool.or_eq_true, Bool.and_eq_true, decide_eq_true_eq]
  omega

/-- One more socket, a child. -/
theorem grown_succ (child : Nat → Bool) (n i : Nat) :
    grown child n (n + 1) i = if i = n then true else child i := by
  unfold grown
  by_cases hi : i = n
  · rw [if_pos hi, hi, decide_eq_true (Nat.le_refl _), decide_eq_true (Nat.lt_succ_self _)]
    exact Bool.or_true _
  · rw [if_neg hi]
    by_cases hle : n ≤ i
    · rw [decide_eq_false (show ¬i < n + 1 by omega), Bool.and_false, Bool.or_false]
    · rw [decide_eq_false hle, Bool.false_and, Bool.or_false]

theorem PortInv.spawn {k : SockKey} (h : PortInv child a) (hs : Spawned a b k) :
    PortInv (grown child a.nSocks b.nSocks) b := by
  have hkey : ∀ i, i ≠ a.nSocks → (b.sock i).key = (a.sock i).key :=
    fun i hi => (hs.key i).trans (if_neg hi)
  have hk : (b.sock a.nSocks).key = k := (hs.key _).trans (if_pos rfl)
  rw [hs.nSocks]
  have hg := grown_succ child a.nSocks
  refine ⟨h.base.spawn hs, ?_, ?_, ?_, ?_, ?_⟩
  · intro p hp id
    rw [hs.boundPorts, h.exact p hp id, hs.nSocks]
    constructor
    · rintro ⟨i, hi, he, hc, hst, hport⟩
      have hne : i ≠ a.nSocks := by omega
      refine ⟨i, by omega, he, ?_, ?_, ?_⟩
      · rw [hg, if_neg hne]
        exact hc
      · rw [key_state (hkey i hne)]
        exact hst
      · rw [key_port (hkey i hne)]
        exact hport
    · rintro ⟨i, hi, he, hc, hst, hport⟩
      have hne : i ≠ a.nSocks := by
        rintro rfl
        rw [hg, if_pos rfl] at hc
        cases hc
      rw [hg, if_neg hne] at hc
      rw [key_state (hkey i hne)] at hst
      rw [key_port (hkey i hne)] at hport
      exact ⟨i, by omega, he, hc, hst, hport⟩
  · rw [hs.boundPorts]
    exact h.one
  · intro i hi hc
    rw [hs.nSocks] at hi
    have hne : i ≠ a.nSocks := by
      rintro rfl
      rw [hg, if_pos rfl] at hc
      cases hc
    rw [hg, if_neg hne] at hc
    rw [key_port (hkey i hne)]
    exact h.low i (by omega) hc
  · intro i hi hc
    rw [hs.nSocks] at hi
    rw [hs.autoBound]
    by_cases hne : i = a.nSocks
    · rw [if_pos hne, hne]
      refine ⟨?_, rfl⟩
      rw [show (b.sock a.nSocks).localPort = k.localPort from congrArg SockKey.localPort hk]
      exact hs.port.1
    · rw [hg, if_neg hne] at hc
      rw [if_neg hne, key_port (hkey i hne)]
      exact h.kids i (by omega) hc
  · intro i hi
    rw [hs.nSocks] at hi
    rw [hg, if_neg (by omega)]
    exact h.young i (by omega)

/-- A new socket an application asked for, or none. -/
theorem PortInv.extended (h : PortInv child a) (hbase : Base b) (hle : a.nSocks ≤ b.nSocks)
    (hold : SameOld a b)
    (hnew : ∀ i, a.nSocks ≤ i → i < b.nSocks → (b.sock i).localPort = 0) : PortInv child b := by
  have hsock : ∀ i, i < a.nSocks → b.sock i = a.sock i := fun i hi => hold.sock i (by omega)
  have hyoung : ∀ i, child i = true → i < a.nSocks := by
    intro i hc
    apply Classical.byContradiction
    intro hi
    rw [h.young i (Nat.le_of_not_lt hi)] at hc
    cases hc
  refine ⟨hbase, ?_, ?_, ?_, ?_, fun i hi => h.young i (Nat.le_trans hle hi)⟩
  · intro p hp id
    rw [hold.boundPorts, h.exact p hp id]
    constructor
    · rintro ⟨i, hi, he, hc, ho⟩
      refine ⟨i, by omega, he, hc, ?_⟩
      rw [hsock i hi]
      exact ho
    · rintro ⟨i, hi, he, hc, hst, hport⟩
      by_cases hlt : i < a.nSocks
      · rw [hsock i hlt] at hst hport
        exact ⟨i, hlt, he, hc, hst, hport⟩
      · rw [hnew i (Nat.le_of_not_lt hlt) hi] at hport
        exact absurd hport.symm hp
  · rw [hold.boundPorts]
    exact h.one
  · intro i hi hc
    by_cases hlt : i < a.nSocks
    · rw [hsock i hlt]
      exact h.low i hlt hc
    · rw [hnew i (Nat.le_of_not_lt hlt) hi]
      exact Nat.zero_le _
  · intro i _ hc
    have hlt := hyoung i hc
    rw [hsock i hlt, hold.sockMeta i (by omega)]
    exact h.kids i hlt hc

theorem PortInv.unalloc (h : PortInv child a) (hu : Unallocated a b) : PortInv child b := by
  refine h.extended (h.base.unalloc hu) (Nat.le_of_eq hu.nSocks.symm) hu.toSameOld ?_
  intro i hi hlt
  rw [hu.nSocks] at hlt
  exact absurd hlt (Nat.not_lt_of_le hi)

theorem PortInv.alloc (h : PortInv child a) (ha : Allocated a b) : PortInv child b := by
  refine h.extended (h.base.alloc ha) (by rw [ha.nSocks]; omega) ha.toSameOld ?_
  intro i hi hlt
  rw [ha.nSocks] at hlt
  rw [show i = a.nSocks by omega]
  exact congrArg SockKey.localPort ha.key

theorem PortInv.prim (h : PortInv child a) (hp : Prim a b) :
    PortInv (grown child a.nSocks b.nSocks) b := by
  have hb := h.base.prim hp
  cases hp with
  | same hs =>
    rw [hs.nSocks, grown_self]
    exact h.same hs
  | move hlt hfrom hto hr =>
    rw [hr.nSocks, grown_self]
    refine h.rekeyed hb hr ?_ ?_
    · intro _ hc
      refine ⟨⟨?_, fun _ => rfl⟩, h.low _ hlt hc⟩
      exact ⟨fun he => absurd he (SockState.connected_live hto),
        fun he => absurd he (SockState.connected_live hfrom)⟩
    · intro _ hc
      exact (h.kids _ hlt hc).1
  | close hlt =>
    rw [tcpSockCloseFinal_nSocks, grown_self]
    exact h.close hlt
  | fail hlt hlive hf =>
    rw [hf.nSocks, grown_self]
    exact h.fail hlt hlive hf
  | unalloc hu =>
    rw [hu.nSocks, grown_self]
    exact h.unalloc hu
  | spawn hs => exact h.spawn hs

theorem PortInv.steps (h : PortInv child a) (hs : Steps a b) :
    PortInv (grown child a.nSocks b.nSocks) b := by
  induction hs with
  | refl =>
    rw [grown_self]
    exact h
  | tail hs hp ih =>
    have := ih.prim hp
    rw [grown_trans child hs.nSocks_le hp.nSocks_le] at this
    exact this

end transitions

/-! ## Requests -/

/-- The condition. A bind that is acted on asks for the port the socket has,
or, if it has none, for the one `tcp_bound_find_free` is about to give it
(for a child any port, but not none); a bind, a connect or a listen does
not wake a closed socket. -/
def PortOk (s : PortSys) : SlowAct → Prop
  | .bind appId ctxId sockId _ localPort _ =>
    BindTaken s.ctx appId ctxId sockId.toNat localPort →
      reservedPort s.ctx sockId.toNat = 0 ∨
      (if s.child sockId.toNat then localPort ≠ 0
        else if (s.ctx.sock sockId.toNat).state = .closed then
          (s.ctx.sock sockId.toNat).localPort ≠ 0
        else localPort = reservedPort s.ctx sockId.toNat)
  | .connect _ _ sockId _ remotePort _ =>
    ConnectTaken s.ctx sockId.toNat remotePort →
      s.child sockId.toNat = true ∨ (s.ctx.sock sockId.toNat).state ≠ .closed
  | .listen _ _ sockId _ _ callocOk =>
    ListenTaken s.ctx sockId.toNat callocOk →
      s.child sockId.toNat = true ∨ (s.ctx.sock sockId.toNat).state ≠ .closed
  | _ => True

section requests

variable {child : Nat → Bool} {a b : TcpSlowCtx} {sid : Nat}

/-- **A port is reserved** for a live socket that had none. -/
theorem PortInv.autoBound {port : UInt16} (h : PortInv child a) (hlt : sid < a.nSocks)
    (hc : child sid = false) (hlive : (a.sock sid).state ≠ .closed)
    (hz : (a.sock sid).localPort = 0) (ha : AutoBound a b sid port) : PortInv child b := by
  have hkey : ∀ i, i ≠ sid → (b.sock i).key = (a.sock i).key :=
    fun i hi => (ha.key i).trans (if_neg hi)
  have hst : (b.sock sid).state = (a.sock sid).state := congrArg SockKey.state ha.at
  have hport : (b.sock sid).localPort = port := congrArg SockKey.localPort ha.at
  refine ⟨ha.base h.base, ?_, ?_, ?_, ?_, ?_⟩
  · intro p hp id
    rw [ha.nSocks]
    by_cases hpp : p = port
    · -- the row was empty, and nobody else has the port
      have hold : ∀ i, i < a.nSocks → ¬Owner child a i port := by
        intro i hi ho
        have := (h.exact port ha.port_ne _).mpr ⟨i, hi, rfl, ho⟩
        rw [portIds_none ha.free] at this
        exact absurd this List.not_mem_nil
      rw [hpp, portIds_single ha.bound.1, ha.bound.2, List.mem_singleton, h.base.id sid hlt]
      constructor
      · intro he
        refine ⟨sid, hlt, he, hc, ?_, hport⟩
        rw [hst]
        exact hlive
      · rintro ⟨i, hi, he, hci, hsti, hporti⟩
        by_cases hs : i = sid
        · rw [he, hs]
        · rw [key_state (hkey i hs)] at hsti
          rw [key_port (hkey i hs)] at hporti
          exact absurd ⟨hci, hsti, hporti⟩ (hold i hi)
    · rw [ha.others p.toNat (fun he => hpp (UInt16.toNat_inj.mp he)), h.exact p hp id]
      constructor
      · rintro ⟨i, hi, he, hci, hsti, hporti⟩
        have hs : i ≠ sid := by
          rintro rfl
          exact hp (hporti.symm.trans hz)
        refine ⟨i, hi, he, hci, ?_, ?_⟩
        · rw [key_state (hkey i hs)]
          exact hsti
        · rw [key_port (hkey i hs)]
          exact hporti
      · rintro ⟨i, hi, he, hci, hsti, hporti⟩
        have hs : i ≠ sid := by
          rintro rfl
          exact hpp (hporti.symm.trans hport)
        rw [key_state (hkey i hs)] at hsti
        rw [key_port (hkey i hs)] at hporti
        exact ⟨i, hi, he, hci, hsti, hporti⟩
  · intro p hp
    by_cases hpp : p = port
    · rw [hpp]
      exact Nat.le_of_eq ha.bound.1
    · rw [ha.others p.toNat (fun he => hpp (UInt16.toNat_inj.mp he))]
      exact h.one p hp
  · intro i hi hci
    rw [ha.nSocks] at hi
    by_cases hs : i = sid
    · rw [hs, hport]
      exact ha.port_le
    · rw [key_port (hkey i hs)]
      exact h.low i hi hci
  · intro i hi hci
    rw [ha.nSocks] at hi
    have hs : i ≠ sid := by
      rintro rfl
      rw [hc] at hci
      cases hci
    rw [key_port (hkey i hs), ha.autoBound, if_neg (by rw [h.base.toNat_id hlt]; exact hs)]
    exact h.kids i hi hci
  · intro i hi
    rw [ha.nSocks] at hi
    exact h.young i hi

/-- `bindPort` on a live socket, or on one that keeps its port. -/
theorem PortInv.kept (h : PortInv child a) (hlt : sid < a.nSocks) (hk : PortKept a b sid)
    (hok : (a.sock sid).localPort = 0 → child sid = false ∧ (a.sock sid).state ≠ .closed) :
    PortInv child b := by
  rcases hk with ⟨-, rfl⟩ | ⟨hz, ha⟩
  · exact h
  · exact h.autoBound hlt (hok hz).1 (hok hz).2 hz ha

theorem isPortValid_le {port : UInt16} (h : isPortValid port = true) : port.toNat ≤ maxPort := by
  unfold isPortValid at h
  rw [Bool.or_eq_true, Bool.and_eq_true] at h
  rcases h with ⟨-, h⟩ | h
  · exact of_decide_eq_true h
  · rw [eq_of_beq h]
    exact Nat.zero_le _

theorem PortInv.bind {ctx : TcpSlowCtx} {sockId : UInt32} {appId ctxId : UInt8}
    {localIp : UInt32} {localPort : UInt16} {opaquePtr : UInt64} (h : PortInv child ctx)
    (hok : PortOk ⟨ctx, child⟩ (.bind appId ctxId sockId localIp localPort opaquePtr)) :
    PortInv child (appBind ctx appId ctxId sockId.toNat localIp localPort opaquePtr) := by
  rcases appBind_cases ctx appId ctxId sockId.toNat localIp localPort opaquePtr with
    hs | ⟨ht, -, hs⟩ | ⟨ht, c, c', hk, hr, hs⟩
  · exact h.same hs.toSameCore
  · refine PortInv.same ?_ hs.toSameCore
    refine h.rekeyed ?_ (rekeyed_bindIp ctx _) ?_ ?_
    · exact h.base.rekeyed (rekeyed_bindIp ctx _) rfl (fun hc => hc) (fun _ => rfl)
    · intro hlt hc
      exact ⟨⟨Iff.rfl, fun _ => rfl⟩, h.low _ hlt hc⟩
    · intro hlt hc
      exact (h.kids _ hlt hc).1
  · have hlt := ht.2.1
    have hvalid := isPortValid_le ht.2.2
    have hbase := h.base.bound hk hr hlt rfl (fun hc => hc)
    have hst : (c.sock sockId.toNat).state = (ctx.sock sockId.toNat).state :=
      congrArg SockKey.state hk.at
    have hport : (c.sock sockId.toNat).localPort = reservedPort ctx sockId.toNat :=
      congrArg SockKey.localPort hk.at
    have hif := (hok ht).resolve_left hk.port_ne
    refine PortInv.same ?_ hs.toSameCore
    cases hchild : child sockId.toNat with
    | true =>
      dsimp only at hif
      rw [if_pos hchild] at hif
      have hc := h.kept hlt hk (fun hz => absurd hz (h.kids _ hlt hchild).1)
      exact hc.rekeyed hbase hr (fun _ hf => by rw [hchild] at hf; cases hf) (fun _ _ => hif)
    | false =>
      dsimp only at hif
      rw [if_neg (by rw [hchild]; exact Bool.false_ne_true)] at hif
      refine PortInv.rekeyed (a := c) ?_ hbase hr ?_ (fun _ ht => by rw [hchild] at ht; cases ht)
      · refine h.kept hlt hk ?_
        intro hz
        refine ⟨hchild, ?_⟩
        intro hcl
        rw [if_pos hcl] at hif
        exact hif hz
      · intro _ _
        rw [hst]
        refine ⟨⟨Iff.rfl, ?_⟩, hvalid⟩
        intro hlive
        rw [if_neg hlive] at hif
        rw [hport]
        exact hif

theorem PortInv.connect {ctx : TcpSlowCtx} {sockId : UInt32} {appId ctxId : UInt8}
    {remoteIp : UInt32} {remotePort : UInt16} {opaquePtr : UInt64} (h : PortInv child ctx)
    (hok : PortOk ⟨ctx, child⟩ (.connect appId ctxId sockId remoteIp remotePort opaquePtr)) :
    PortInv (grown child ctx.nSocks
      (appConnect ctx appId ctxId sockId.toNat remoteIp remotePort opaquePtr).nSocks)
      (appConnect ctx appId ctxId sockId.toNat remoteIp remotePort opaquePtr) := by
  rcases appConnect_cases h.base appId ctxId sockId.toNat remoteIp remotePort opaquePtr with
    hs | ⟨ht, c, c', hk, hr, hf⟩
  · rw [hs.nSocks, grown_self]
    exact h.same hs.toSameCore
  · have hlt := ht.1
    have hbase := h.base.bound hk hr hlt rfl nofun
    have hst : (c.sock sockId.toNat).state = (ctx.sock sockId.toNat).state :=
      congrArg SockKey.state hk.at
    have hport : (c.sock sockId.toNat).localPort = reservedPort ctx sockId.toNat :=
      congrArg SockKey.localPort hk.at
    have hltc : sockId.toNat < c.nSocks := by
      rw [hk.nSocks]
      exact hlt
    have hn : ctx.nSocks = c'.nSocks := by
      rw [hr.nSocks, hk.nSocks]
    have hc : PortInv child c := by
      refine h.kept hlt hk ?_
      intro hz
      have hno : child sockId.toNat = false := by
        cases hchild : child sockId.toNat with
        | true => exact absurd hz (h.kids _ hlt hchild).1
        | false => rfl
      refine ⟨hno, ?_⟩
      rcases hok ht with hch | hlive
      · dsimp only at hch
        rw [hno] at hch
        cases hch
      · exact hlive
    have hc' : PortInv child c' := by
      refine hc.rekeyed hbase hr ?_ ?_
      · intro _ hno
        have hlive : (ctx.sock sockId.toNat).state ≠ .closed := by
          rcases hok ht with hch | hlive
          · dsimp only at hch
            rw [hno] at hch
            cases hch
          · exact hlive
        rw [hst]
        refine ⟨⟨⟨nofun, fun hcl => absurd hcl hlive⟩, fun _ => hport.symm⟩, ?_⟩
        have hlow := hc.low _ hltc hno
        rw [hport] at hlow
        exact hlow
      · intro _ _
        exact hk.port_ne
    have hlt' : sockId.toNat < c'.nSocks := by
      rw [hr.nSocks]
      exact hltc
    rcases hf with hf | ⟨d, hd, hsteps⟩
    · rw [hf.nSocks, hn, grown_self]
      refine hc'.fail hlt' ?_ hf
      rw [show (c'.sock sockId.toNat).state = .synSent from congrArg SockKey.state hr.at]
      exact SockState.noConfusion
    · obtain ⟨s, -, -, hde⟩ := tcpFlowInsert_eq_some hd
      have hd' : PortInv child d := by
        refine hc'.keep (hc'.base.inserted hlt' hd) (by rw [hde]; rfl) (by rw [hde]; rfl) ?_ ?_
        · intro i hi hci
          rw [hde]
          exact ⟨⟨Iff.rfl, fun _ => rfl⟩, hc'.low i hi hci⟩
        · intro i hi hci
          rw [hde]
          exact hc'.kids i hi hci
      rw [hn, show c'.nSocks = d.nSocks by rw [hde]; rfl]
      exact hd'.steps hsteps

theorem PortInv.listen {ctx : TcpSlowCtx} {sockId backlog : UInt32} {appId ctxId : UInt8}
    {opaquePtr : UInt64} {callocOk : Bool} (h : PortInv child ctx)
    (hok : PortOk ⟨ctx, child⟩ (.listen appId ctxId sockId backlog opaquePtr callocOk)) :
    PortInv child (appListen ctx appId ctxId sockId.toNat backlog opaquePtr callocOk) := by
  rcases appListen_cases ctx appId ctxId sockId.toNat backlog opaquePtr callocOk with
    hs | ⟨ht, c, c', hs, hr, hs'⟩
  · exact h.same hs.toSameCore
  · have hl := core_setListener c (ctx.sock sockId.toNat).id.toNat
      (listenerOpen (ctx.listeners (ctx.sock sockId.toNat).id.toNat) backlog)
    have hc := (h.same hs.toSameCore).same hl
    have hsock : ((c.setListener (ctx.sock sockId.toNat).id.toNat
        (listenerOpen (ctx.listeners (ctx.sock sockId.toNat).id.toNat) backlog)).sock
        sockId.toNat).key = (ctx.sock sockId.toNat).key := hs.key sockId.toNat
    have hlt := ht.1
    refine PortInv.same (hc.rekeyed ?_ hr ?_ ?_) hs'.toSameCore
    · refine hc.base.rekeyed hr (key_id hsock).symm nofun ?_
      intro hge
      rw [show (c.setListener _ _).nSocks = ctx.nSocks from hs.nSocks] at hge
      exact absurd hlt (Nat.not_lt_of_le hge)
    · intro _ hno
      have hlive : (ctx.sock sockId.toNat).state ≠ .closed := by
        rcases hok ht with hch | hlive
        · dsimp only at hch
          rw [hno] at hch
          cases hch
        · exact hlive
      rw [key_state hsock, key_port hsock]
      exact ⟨⟨⟨nofun, fun hcl => absurd hcl hlive⟩, fun _ => rfl⟩, h.low _ hlt hno⟩
    · intro _ hch
      exact (h.kids _ hlt hch).1

end requests

/-! ## Every run -/

theorem PortInv.next {s : PortSys} {act : SlowAct} (h : PortInv s.child s.ctx)
    (hok : PortOk s act) : PortInv (portStep s act).1.child (portStep s act).1.ctx := by
  obtain ⟨ctx, child⟩ := s
  -- a step that allocates nothing marks nobody
  have hself : ∀ ctx', ctx'.nSocks = ctx.nSocks → PortInv child ctx' →
      PortInv (grown child ctx.nSocks ctx'.nSocks) ctx' := by
    intro ctx' hn h'
    rw [hn, grown_self]
    exact h'
  have hsame : ∀ ctx', Same ctx ctx' → PortInv (grown child ctx.nSocks ctx'.nSocks) ctx' :=
    fun ctx' hs => hself ctx' hs.nSocks (h.same hs.toSameCore)
  cases act with
  | newSock appId ctxId opaquePtr =>
    show PortInv child (appNewSock ctx appId ctxId opaquePtr)
    rcases appNewSock_cases ctx appId ctxId opaquePtr with hu | ⟨c, ha, hs, -⟩
    · exact h.unalloc hu
    · exact (h.alloc ha).same hs.toSameCore
  | setopt appId ctxId sockId opt opaquePtr => exact hsame _ (same_appSetopt ctx _ _ _ _ _)
  | bind appId ctxId sockId localIp localPort opaquePtr =>
    refine hself _ ?_ (h.bind hok)
    rcases appBind_cases ctx appId ctxId sockId.toNat localIp localPort opaquePtr with
      hs | ⟨-, -, hs⟩ | ⟨-, c, c', hk, hr, hs⟩
    · exact hs.nSocks
    · exact hs.nSocks.trans (rekeyed_bindIp ctx _).nSocks
    · exact hs.nSocks.trans (hr.nSocks.trans hk.nSocks)
  | connect appId ctxId sockId remoteIp remotePort opaquePtr => exact h.connect hok
  | listen appId ctxId sockId backlog opaquePtr callocOk =>
    refine hself _ ?_ (h.listen hok)
    rcases appListen_cases ctx appId ctxId sockId.toNat backlog opaquePtr callocOk with
      hs | ⟨-, c, c', hs, hr, hs'⟩
    · exact hs.nSocks
    · exact hs'.nSocks.trans (hr.nSocks.trans hs.nSocks)
  | accept appId ctxId sockId opaquePtr => exact h.steps (steps_appAccept h.base _ _ _)
  | shutdown sockId how => exact h.steps (steps_appShutdown h.base _)
  | close sockId => exact h.steps (steps_appClose h.base)
  | segment p core => exact h.steps (steps_ctlRx h.base p core)
  | timeout entry => exact h.steps (steps_timeout h.base entry)
  | fastRx env => exact hsame _ (same_fastRx ctx env)
  | fastDeq env =>
    rcases fastDeq_cases ctx env with hs | ⟨sockId, txPort, txIp, txAvail, -, hr⟩
    · exact hsame _ hs
    · refine hself _ hr.nSocks (h.rekeyed ?_ hr ?_ ?_)
      · exact h.base.rekeyed hr rfl (fun hc => hc) (fun _ => rfl)
      · intro hlt hc
        exact ⟨⟨Iff.rfl, fun _ => rfl⟩, h.low _ hlt hc⟩
      · intro hlt hc
        exact (h.kids _ hlt hc).1
  | fastSched env => exact hsame _ (same_fastSched ctx env)
  | drain q => exact hsame _ (same_drain ctx q)

/-- What the table of bound ports is for. -/
structure PortsExact (s : PortSys) : Prop where
  /-- The ids at a port are the live sockets that have it, children apart. -/
  exact : ∀ p : UInt16, p ≠ 0 → (portIds (s.ctx.boundPorts p.toNat)).Nodup ∧
    ∀ id, id ∈ portIds (s.ctx.boundPorts p.toNat) ↔
      ∃ i, i < s.ctx.nSocks ∧ id = UInt32.ofNat i ∧ Owner s.child s.ctx i p
  /-- Two of them share a port only with `SO_REUSEPORT` on both. -/
  share : ∀ p : UInt16, p ≠ 0 → ∀ i j, i < s.ctx.nSocks → j < s.ctx.nSocks → i ≠ j →
    Owner s.child s.ctx i p → Owner s.child s.ctx j p →
    (s.ctx.sock i).reuport = true ∧ (s.ctx.sock j).reuport = true
  /-- A closed socket has no reservation left. -/
  released : ∀ i, i < s.ctx.nSocks → (s.ctx.sock i).state = .closed →
    ∀ p : UInt16, p ≠ 0 → UInt32.ofNat i ∉ portIds (s.ctx.boundPorts p.toNat)
  /-- No port is free only when every port is in use. -/
  full : tcpBoundFindFree s.ctx = 0 → ∀ p : UInt16, minPort ≤ p.toNat → p.toNat ≤ maxPort →
    ∃ i, i < s.ctx.nSocks ∧ Owner s.child s.ctx i p

theorem PortInv.ports {s : PortSys} (h : PortInv s.child s.ctx) : PortsExact s := by
  refine ⟨?_, ?_, ?_, ?_⟩
  · intro p hp
    refine ⟨?_, h.exact p hp⟩
    rcases Nat.le_one_iff_eq_zero_or_eq_one.mp (h.one p hp) with h0 | h1
    · rw [portIds_none h0]
      exact List.nodup_nil
    · rw [portIds_single h1]
      exact List.nodup_cons.mpr ⟨List.not_mem_nil, List.nodup_nil⟩
  · intro p hp i j hi hj hne hoi hoj
    -- the row has one entry at most, so the two are one
    have hmi := (h.exact p hp _).mpr ⟨i, hi, rfl, hoi⟩
    have hmj := (h.exact p hp _).mpr ⟨j, hj, rfl, hoj⟩
    rcases Nat.le_one_iff_eq_zero_or_eq_one.mp (h.one p hp) with h0 | h1
    · rw [portIds_none h0] at hmi
      exact absurd hmi List.not_mem_nil
    · rw [portIds_single h1, List.mem_singleton] at hmi hmj
      exact absurd (ofNat_sock_inj (h.base.lt hi) (h.base.lt hj) (hmi.trans hmj.symm)) hne
  · intro i hi hcl p hp hin
    exact (h.only hi hp hin).2.1 hcl
  · intro hz p hmin hmax
    have hp : p ≠ 0 := by
      rintro rfl
      exact absurd hmin (by decide)
    have hne := tcpBoundFindFree_zero hz hmin hmax
    have h1 : (s.ctx.boundPorts p.toNat).nsocks = 1 := by
      have := h.one p hp
      omega
    obtain ⟨i, hi, -, ho⟩ := (h.exact p hp ((s.ctx.boundPorts p.toNat).sids 0)).mp (by
      rw [portIds_single h1]
      exact List.mem_singleton_self _)
    exact ⟨i, hi, ho⟩

/-- **Ports are reserved exactly, along every run** whose binds ask for the
port that is reserved and whose requests leave closed sockets alone. -/
theorem ports_reserved_exactly {ctx₀ : TcpSlowCtx} {s : PortSys} {log : List Unit}
    (h₀ : SlowInit ctx₀) (hr : Run PortOk portStep ⟨ctx₀, fun _ => false⟩ log s) :
    PortsExact s :=
  PortInv.ports (Run.inv (I := fun _ s => PortInv s.child s.ctx) h₀.ports
    (fun _ _ _ h hok => h.next hok) hr)

/-- A fresh slow path with one socket. -/
def oneSocket : PortSys := (portStep ⟨freshSlow, fun _ => false⟩ (.newSock 0 0 0)).1

/-- A bind to the first free port meets the condition. -/
theorem ports_reserved_exactly_bind :
    portIds ((portStep oneSocket (.bind 0 0 0 0x0a000001 1002 0)).1.ctx.boundPorts 1002) = [0] ∧
      PortsExact (portStep oneSocket (.bind 0 0 0 0x0a000001 1002 0)).1 := by
  refine ⟨by decide, ports_reserved_exactly freshSlow_init
    (Run.snoc (a := SlowAct.bind 0 0 0 0x0a000001 1002 0)
      (Run.snoc (a := SlowAct.newSock 0 0 0) Run.nil trivial) ?_)⟩
  intro _
  exact .inr (by decide)

/-- A bind to port 8080 reserves port 1002. -/
theorem bind_reserves_other_port :
    ¬ ∀ (ctx₀ : TcpSlowCtx) (s : PortSys) (log : List Unit), SlowInit ctx₀ →
      Run (fun _ _ => True) portStep ⟨ctx₀, fun _ => false⟩ log s → PortsExact s := by
  intro h
  have ht := h freshSlow _ _ freshSlow_init (Run.execAll
    [SlowAct.newSock 0 0 0, SlowAct.bind 0 0 0 0x0a000001 8080 0] Run.nil)
  obtain ⟨i, hi, -, ho⟩ := ((ht.exact 1002 (by decide)).2 0).mp (by decide)
  obtain rfl : i = 0 := by
    have : i < 1 := hi
    omega
  exact absurd ho.2.2 (by decide)

end Chamelio.Tcp
