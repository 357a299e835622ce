import Chamelio.Udp.EbpfAgree

/-!
# The search for a free port (`find_free_port`)

The search stands three times in the source, in the slow path, in the
hand-written fast path and in the fast-path program. It looks at
`UDP_PORT_SCAN_MAX` ports from `next_port` on, cyclically in `MIN_PORT` to
`MAX_PORT`, and takes the first without a socket.

The number of the port is a 16-bit sum. A sum of 65535 is past the end of the
range and is folded back to the first port; a larger one has wrapped to a
small number, is not past the end any more, and stands for one of the ports
from 0 on. So the search leaves its range when it starts in the last ports
and finds no free one before the wrap. And where it finds none at all it does
not write `next_port`, which stays out of range if it was.

Mirroring notes: whether a port is free is a predicate on port numbers, so
that one result serves the three copies.
-/

namespace Chamelio.Udp

open Chamelio.Lib Chamelio.Fast

/-- Where the search starts. -/
def portStart (nextPort : UInt16) : UInt16 :=
  if nextPort < minPort ∨ nextPort > maxPort then minPort else nextPort

/-- The `i`-th cyclic successor of a port in `MIN_PORT` to `MAX_PORT`. -/
def portSuccessor (start : UInt16) (i : Nat) : UInt16 :=
  UInt16.ofNat (1002 + (start.toNat - 1002 + i) % 64533)

/-- `MIN_PORT` to `MAX_PORT`. -/
def InPortRange (nr : UInt16) : Prop := minPort ≤ nr ∧ nr ≤ maxPort

instance (nr : UInt16) : Decidable (InPortRange nr) :=
  inferInstanceAs (Decidable (minPort ≤ nr ∧ nr ≤ maxPort))

/-- **What the search promises**: the ports it looks at are the cyclic
successors of its start, the result is the first free one of them or 0, and
`next_port` ends in range. -/
structure PortSearch (free : UInt16 → Bool) (nextPort nr : UInt16) (after : Option UInt16) :
    Prop where
  probes : ∀ i, i < udpPortScanMax →
    (∀ j, j < i → free (portCandidate (portStart nextPort) j) = false) →
      portCandidate (portStart nextPort) i = portSuccessor (portStart nextPort) i
  first : nr = (((List.range udpPortScanMax).map
    (portSuccessor (portStart nextPort))).find? free).getD 0
  range : nr ≠ 0 → InPortRange nr
  zero : nr = 0 → ∀ i, i < udpPortScanMax → free (portSuccessor (portStart nextPort) i) = false
  after : ∃ n, after = some n ∧ InPortRange n

/-- The loop: the first free candidate, and `next_port` behind it. -/
def portLoop (free : UInt16 → Bool) (nextPort : UInt16) : UInt16 × UInt16 :=
  match (List.range udpPortScanMax).find? (fun i =>
      free (portCandidate (portStart nextPort) i)) with
  | none => (0, nextPort)
  | some i =>
    (portCandidate (portStart nextPort) i, portAfter (portCandidate (portStart nextPort) i))

/-- The search stays in range: it starts early enough or finds a free port
before the wrap, and it finds one at all if `next_port` is out of range. -/
def SearchInRange (free : UInt16 → Bool) (nextPort : UInt16) : Prop :=
  ((portStart nextPort).toNat ≤ 65528 ∨
      ∃ i, (portStart nextPort).toNat + i < 65536 ∧
        free (portSuccessor (portStart nextPort) i) = true) ∧
    (InPortRange nextPort ∨
      ∃ i, i < udpPortScanMax ∧ free (portSuccessor (portStart nextPort) i) = true)

/-! ## Candidates -/

theorem portStart_range (nextPort : UInt16) :
    1002 ≤ (portStart nextPort).toNat ∧ (portStart nextPort).toNat ≤ 65534 := by
  unfold portStart
  split
  · exact ⟨by decide, by decide⟩
  · next h =>
    rw [not_or, UInt16.not_lt, UInt16.not_lt, UInt16.le_iff_toNat_le, UInt16.le_iff_toNat_le] at h
    exact h

theorem portSuccessor_toNat (start : UInt16) (i : Nat) :
    (portSuccessor start i).toNat = 1002 + (start.toNat - 1002 + i) % 64533 := by
  unfold portSuccessor
  rw [UInt16.toNat_ofNat']
  omega

theorem portSuccessor_range (start : UInt16) (i : Nat) : InPortRange (portSuccessor start i) := by
  have h := portSuccessor_toNat start i
  refine ⟨UInt16.le_iff_toNat_le.mpr ?_, UInt16.le_iff_toNat_le.mpr ?_⟩
  · rw [h]
    show 1002 ≤ _
    omega
  · rw [h]
    show _ ≤ 65534
    omega

/-- The 16-bit sum before it is folded. -/
theorem portCandidate_toNat (start : UInt16) {i : Nat} (hi : i < 8) :
    (portCandidate start i).toNat =
      if start.toNat + i < 65536 then
        if start.toNat + i = 65535 then 1002 else start.toNat + i
      else start.toNat + i - 65536 := by
  have hlt := start.toNat_lt
  have hsum : (start + UInt16.ofNat i).toNat = (start.toNat + i) % 65536 := by
    rw [UInt16.toNat_add, UInt16.toNat_ofNat']
    omega
  unfold portCandidate
  dsimp only
  by_cases h : start + UInt16.ofNat i > maxPort
  · have hmax : (start.toNat + i) % 65536 = 65535 := by
      have := UInt16.lt_iff_toNat_lt.mp h
      rw [hsum, show maxPort.toNat = 65534 from rfl] at this
      omega
    rw [if_pos h]
    have hall : start + UInt16.ofNat i = 65535 := UInt16.toNat_inj.mp (hsum.trans hmax)
    rw [hall, if_pos (by omega), if_pos (by omega)]
    rfl
  · rw [if_neg h, hsum]
    have hle : (start.toNat + i) % 65536 ≤ 65534 := by
      rw [← hsum]
      exact UInt16.le_iff_toNat_le.mp (UInt16.not_lt.mp h)
    by_cases hwrap : start.toNat + i < 65536
    · rw [if_pos hwrap, if_neg (by omega)]
      omega
    · rw [if_neg hwrap]
      omega

/-- Before the wrap the candidate is the successor, and from there on it is
not. -/
theorem portCandidate_eq_iff {start : UInt16} (hlo : 1002 ≤ start.toNat)
    (hhi : start.toNat ≤ 65534) {i : Nat} (hi : i < 8) :
    portCandidate start i = portSuccessor start i ↔ start.toNat + i < 65536 := by
  rw [← UInt16.toNat_inj, portCandidate_toNat start hi, portSuccessor_toNat]
  constructor
  · intro h
    apply Nat.lt_of_not_le
    intro hge
    rw [if_neg (by omega)] at h
    omega
  · intro h
    rw [if_pos h]
    split <;> omega

theorem portAfter_range {nr : UInt16} (h : InPortRange nr) : InPortRange (portAfter nr) := by
  unfold portAfter
  split
  · exact ⟨by decide, by decide⟩
  · next hle =>
    have hmax := UInt16.le_iff_toNat_le.mp h.2
    have hmin := UInt16.le_iff_toNat_le.mp h.1
    have hsum : (nr + 1).toNat = nr.toNat + 1 := by
      rw [UInt16.toNat_add, show (1 : UInt16).toNat = 1 from rfl]
      rw [show maxPort.toNat = 65534 from rfl] at hmax
      omega
    refine ⟨UInt16.le_iff_toNat_le.mpr ?_, UInt16.not_lt.mp hle⟩
    omega

/-! ## The loop -/

theorem portLoop_none {free : UInt16 → Bool} {nextPort : UInt16}
    (h : ∀ i, i < udpPortScanMax → free (portCandidate (portStart nextPort) i) = false) :
    portLoop free nextPort = (0, nextPort) := by
  unfold portLoop
  rw [List.find?_range_eq_none.mpr fun i hi => by rw [h i hi]; rfl]

theorem portLoop_some {free : UInt16 → Bool} {nextPort : UInt16} {i : Nat}
    (hi : i < udpPortScanMax) (hfree : free (portCandidate (portStart nextPort) i) = true)
    (hbefore : ∀ j, j < i → free (portCandidate (portStart nextPort) j) = false) :
    portLoop free nextPort = (portCandidate (portStart nextPort) i,
      portAfter (portCandidate (portStart nextPort) i)) := by
  unfold portLoop
  rw [List.find?_range_eq_some.mpr ⟨hfree, List.mem_range.mpr hi, fun j hj => by
    rw [hbefore j hj]; rfl⟩]

/-- Either no candidate is free, or there is a first one. -/
theorem first_candidate (free : UInt16 → Bool) (nextPort : UInt16) :
    (∀ i, i < udpPortScanMax → free (portCandidate (portStart nextPort) i) = false) ∨
      ∃ i, i < udpPortScanMax ∧ free (portCandidate (portStart nextPort) i) = true ∧
        ∀ j, j < i → free (portCandidate (portStart nextPort) j) = false := by
  cases hf : (List.range udpPortScanMax).find? (fun i =>
      free (portCandidate (portStart nextPort) i)) with
  | none =>
    left
    intro i hi
    simpa using List.find?_range_eq_none.mp hf i hi
  | some i =>
    obtain ⟨hfree, hi, hbefore⟩ := List.find?_range_eq_some.mp hf
    exact .inr ⟨i, List.mem_range.mp hi, hfree, fun j hj => by simpa using hbefore j hj⟩

/-- In range, every candidate that is looked at is a successor. -/
theorem SearchInRange.probes {free : UInt16 → Bool} {nextPort : UInt16}
    (h : SearchInRange free nextPort) {i : Nat} (hi : i < udpPortScanMax)
    (hbefore : ∀ j, j < i → free (portCandidate (portStart nextPort) j) = false) :
    portCandidate (portStart nextPort) i = portSuccessor (portStart nextPort) i := by
  obtain ⟨hlo, hhi⟩ := portStart_range nextPort
  change i < 8 at hi
  refine (portCandidate_eq_iff hlo hhi hi).mpr ?_
  rcases h.1 with hearly | ⟨k, hk, hfree⟩
  · omega
  · apply Nat.lt_of_not_le
    intro hge
    -- the free port before the wrap ends the search earlier
    have hkeq := (portCandidate_eq_iff hlo hhi (i := k) (by omega)).mpr hk
    have hno := hbefore k (by omega)
    rw [hkeq, hfree] at hno
    cases hno

theorem portLoop_search {free : UInt16 → Bool} {nextPort : UInt16}
    (h : SearchInRange free nextPort) :
    PortSearch free nextPort (portLoop free nextPort).1 (some (portLoop free nextPort).2) := by
  rcases first_candidate free nextPort with hnone | ⟨i, hi, hfree, hbefore⟩
  · have hsucc : ∀ i, i < udpPortScanMax →
        free (portSuccessor (portStart nextPort) i) = false := by
      intro i hi
      rw [← h.probes hi fun j hj => hnone j (Nat.lt_trans hj hi)]
      exact hnone i hi
    rw [portLoop_none hnone]
    refine ⟨fun i hi hb => h.probes hi hb, ?_, fun hne => absurd rfl hne, fun _ => hsucc,
      nextPort, rfl, ?_⟩
    · rw [List.find?_map, List.find?_range_eq_none.mpr]
      · rfl
      · intro i hi
        rw [Function.comp_apply, hsucc i hi]
        rfl
    · rcases h.2 with hin | ⟨i, hi, hfree⟩
      · exact hin
      · rw [hsucc i hi] at hfree
        cases hfree
  · have hprobe := h.probes hi hbefore
    rw [portLoop_some hi hfree hbefore]
    have hrange : InPortRange (portCandidate (portStart nextPort) i) := by
      rw [hprobe]
      exact portSuccessor_range _ i
    refine ⟨fun i hi hb => h.probes hi hb, ?_, fun _ => hrange, fun h0 => ?_, _, rfl,
      portAfter_range hrange⟩
    · have hfind : (List.range udpPortScanMax).find?
          (free ∘ portSuccessor (portStart nextPort)) = some i := by
        refine List.find?_range_eq_some.mpr ⟨?_, List.mem_range.mpr hi, fun j hj => ?_⟩
        · rw [Function.comp_apply, ← hprobe]
          exact hfree
        · have hj8 := Nat.lt_trans hj hi
          have hbj := fun k (hk : k < j) => hbefore k (Nat.lt_trans hk hj)
          rw [Function.comp_apply, ← h.probes hj8 hbj, hbefore j hj]
          rfl
      rw [List.find?_map, hfind]
      exact hprobe
    · dsimp only at h0
      rw [h0] at hrange
      exact absurd hrange (by decide)

/-- **The loop keeps its promise** exactly when the search stays in range. -/
theorem portLoop_search_iff (free : UInt16 → Bool) (nextPort : UInt16) :
    PortSearch free nextPort (portLoop free nextPort).1 (some (portLoop free nextPort).2) ↔
      SearchInRange free nextPort := by
  refine ⟨fun h => ⟨?_, ?_⟩, portLoop_search⟩
  · obtain ⟨hlo, hhi⟩ := portStart_range nextPort
    by_cases hearly : (portStart nextPort).toNat ≤ 65528
    · exact .inl hearly
    · refine .inr (Classical.byContradiction fun hno => ?_)
      -- with no free port before the wrap the search looks at port 0
      have hwrap := h.probes (65536 - (portStart nextPort).toNat)
        (show 65536 - (portStart nextPort).toNat < 8 by omega) fun j hj => by
          rw [(portCandidate_eq_iff hlo hhi (i := j) (by omega)).mpr (by omega)]
          cases hf : free (portSuccessor (portStart nextPort) j) with
          | false => rfl
          | true => exact absurd ⟨j, by omega, hf⟩ hno
      have := (portCandidate_eq_iff hlo hhi (by omega)).mp hwrap
      omega
  · by_cases hin : InPortRange nextPort
    · exact .inl hin
    · refine .inr (Classical.byContradiction fun hno => ?_)
      rcases first_candidate free nextPort with hnone | ⟨i, hi, hfree, hbefore⟩
      · obtain ⟨n, hn, hrange⟩ := h.after
        rw [portLoop_none hnone] at hn
        obtain rfl : nextPort = n := Option.some.inj hn
        exact hin hrange
      · rw [h.probes i hi hbefore] at hfree
        exact hno ⟨i, hi, hfree⟩

/-! ## The three copies -/

/-- The ports without a socket. -/
def freePort (m : UdpMaps) (nr : UInt16) : Bool := (m.ports nr.toNat).nsocks == 0

/-- The maps with a value of `next_port`. -/
def withNextPort (m : UdpMaps) (nextPort : UInt16) : UdpMaps :=
  { m with nextPort := some nextPort }

theorem findFreePort_loop (ctx : UdpCtx) (nextPort : UInt16) :
    let r := findFreePort { ctx with maps := withNextPort ctx.maps nextPort }
    r.2 = (portLoop (freePort ctx.maps) nextPort).1 ∧
      r.1.maps.nextPort = some (portLoop (freePort ctx.maps) nextPort).2 := by
  have hloop : findFreePort { ctx with maps := withNextPort ctx.maps nextPort } =
      match (List.range udpPortScanMax).find? (fun i =>
        freePort ctx.maps (portCandidate (portStart nextPort) i)) with
      | none => ({ ctx with maps := withNextPort ctx.maps nextPort }, 0)
      | some i =>
        let nr := portCandidate (portStart nextPort) i
        ({ ctx with maps := withNextPort ctx.maps (portAfter nr) }, nr) := rfl
  rw [hloop]
  unfold portLoop
  cases (List.range udpPortScanMax).find? (fun i =>
      freePort ctx.maps (portCandidate (portStart nextPort) i)) with
  | none => exact ⟨rfl, rfl⟩
  | some i => exact ⟨rfl, rfl⟩

theorem slowFindFreePort_loop (s : UdpSlow) (nextPort : UInt16) :
    let r := slowFindFreePort { s with maps := withNextPort s.maps nextPort }
    r.2 = (portLoop (freePort s.maps) nextPort).1 ∧
      r.1.maps.nextPort = some (portLoop (freePort s.maps) nextPort).2 := by
  have hloop : slowFindFreePort { s with maps := withNextPort s.maps nextPort } =
      match (List.range udpPortScanMax).find? (fun i =>
        freePort s.maps (portCandidate (portStart nextPort) i)) with
      | none => ({ s with maps := withNextPort s.maps nextPort }, 0)
      | some i =>
        let nr := portCandidate (portStart nextPort) i
        ({ s with maps := withNextPort s.maps (portAfter nr) }, nr) := rfl
  rw [hloop]
  unfold portLoop
  cases (List.range udpPortScanMax).find? (fun i =>
      freePort s.maps (portCandidate (portStart nextPort) i)) with
  | none => exact ⟨rfl, rfl⟩
  | some i => exact ⟨rfl, rfl⟩

/-- **When `find_free_port` keeps its promise**, in the slow path and in both
fast paths: it starts at least eight ports before the wrap or finds a free one
before it, and finds one at all if `next_port` is out of range. -/
theorem findFreePort_search_iff (ctx : UdpCtx) (s : UdpSlow) (nextPort : UInt16) :
    let fast := findFreePort { ctx with maps := withNextPort ctx.maps nextPort }
    let prog := Ebpf.findFreePort { ctx with maps := withNextPort ctx.maps nextPort }
    let slow := slowFindFreePort { s with maps := withNextPort s.maps nextPort }
    (PortSearch (freePort ctx.maps) nextPort fast.2 fast.1.maps.nextPort ↔
        SearchInRange (freePort ctx.maps) nextPort) ∧
      (PortSearch (freePort ctx.maps) nextPort prog.2 prog.1.maps.nextPort ↔
        SearchInRange (freePort ctx.maps) nextPort) ∧
      (PortSearch (freePort s.maps) nextPort slow.2 slow.1.maps.nextPort ↔
        SearchInRange (freePort s.maps) nextPort) := by
  have hfast := findFreePort_loop ctx nextPort
  have hslow := slowFindFreePort_loop s nextPort
  dsimp only at hfast hslow ⊢
  rw [Ebpf.findFreePort_eq, hfast.1, hfast.2, hslow.1, hslow.2]
  exact ⟨portLoop_search_iff _ nextPort, portLoop_search_iff _ nextPort,
    portLoop_search_iff _ nextPort⟩

/-- A slow path whose last six ports and first port are taken. -/
def wrapSlow : UdpSlow :=
  { maps :=
      { ports := fun i =>
          { nsocks := if 65529 ≤ i ∨ i = 1002 then 1 else 0, nextSock := fun _ => 0
            sids := fun _ => 0 }
        socks := fun _ => ⟨0, 0, 0, 0, fun _ => 0, 0, 0, false, 0, 0, 0, 0, 0, 0, 0, 0⟩
        sockNelems := 65534
        nextPort := some 65529 }
    nSocks := 7
    nFpCores := 1
    localIp := 0
    actxs := fun _ => ⟨⟨[], 0⟩, fun _ => 0⟩ }

/-- Its search looks at port 0 after those and takes it: it says that there
is no free port, though 1003 is one, and leaves `next_port` at 1. -/
theorem slowFindFreePort_wraps :
    (slowFindFreePort wrapSlow).2 = 0 ∧ freePort wrapSlow.maps 1003 = true ∧
      portSuccessor 65529 7 = 1003 ∧ (slowFindFreePort wrapSlow).1.maps.nextPort = some 1 ∧
      ¬ PortSearch (freePort wrapSlow.maps) 65529 (slowFindFreePort wrapSlow).2
        (slowFindFreePort wrapSlow).1.maps.nextPort := by
  have hafter : (slowFindFreePort wrapSlow).1.maps.nextPort = some 1 := by decide
  refine ⟨by decide, by decide, by decide, hafter, fun h => ?_⟩
  obtain ⟨n, hn, hrange⟩ := h.after
  rw [hafter] at hn
  obtain rfl : (1 : UInt16) = n := Option.some.inj hn
  exact absurd hrange (by decide)

end Chamelio.Udp
