import Chamelio.Lib.RingList
import Chamelio.Tcp.SlowSteps

/-!
# One listener and its children

What a listener's two counters and its ready ring stand for. The children
are given as two properties of socket indices below `n`: `kid`, the open
children, and `ready`, those that wait to be accepted. `ListenerOpen` says
that `backlog_used` counts the first and the ring holds the second;
`ListenerOk` adds the other kind of listener, a zeroed one without children.

The lemmas are the moves of one child: it arrives, completes its handshake,
is accepted, or goes away before its handshake is complete. There is none
for a child that goes away while it is ready: `tcp_listener_detach_child`
empties its cell and leaves `ready_used` as it is.
-/

namespace Chamelio.Tcp

open Chamelio.Lib Chamelio.Util Chamelio.Pkt Chamelio.Fast

/-- A listener in use, with the queue of ready children in its ring. -/
structure ListenerOpen (l : Listener) (n : Nat) (kid ready : Nat → Bool) (q : List UInt32) :
    Prop where
  active : l.active = true
  slots : l.readySlots = some l.backlogLen.toNat
  /-- `tcp_listen` takes the backlog as an `int`. -/
  short : l.backlogLen.toNat < 2147483648
  ring : RingList idInvalid l.readySids l.backlogLen.toNat l.readyHead.toNat q
  used : l.readyUsed.toNat = q.length
  nodup : q.Nodup
  mem : ∀ x, x ∈ q ↔ ∃ i, i < n ∧ x = UInt32.ofNat i ∧ ready i = true
  sub : ∀ i, i < n → ready i = true → kid i = true
  total : q.length = countBelow n ready
  count : l.backlogUsed.toNat = countBelow n kid
  le : l.backlogUsed.toNat ≤ l.backlogLen.toNat

/-- In use, or zeroed and without children. -/
def ListenerOk (l : Listener) (n : Nat) (kid ready : Nat → Bool) : Prop :=
  (∃ q, ListenerOpen l n kid ready q) ∨ (l = listenerZero ∧ ∀ i, i < n → kid i = false)

section listener

variable {l : Listener} {n : Nat} {kid ready kid' ready' : Nat → Bool} {q : List UInt32}

/-- The ready children are children. -/
theorem ListenerOpen.ready_le (h : ListenerOpen l n kid ready q) :
    l.readyUsed.toNat ≤ l.backlogUsed.toNat := by
  rw [h.used, h.total, h.count]
  exact countBelow_mono h.sub

/-- While a child is not ready, the ring has a free cell. -/
theorem ListenerOpen.ready_lt (h : ListenerOpen l n kid ready q) {i : Nat} (hi : i < n)
    (hk : kid i = true) (hr : ready i = false) : l.readyUsed.toNat < l.backlogLen.toNat := by
  have hlt := countBelow_lt h.sub hi hk hr
  have hle := h.le
  rw [h.count] at hle
  rw [h.used, h.total]
  omega

theorem ListenerOk.congr (h : ListenerOk l n kid ready)
    (hk : ∀ i, i < n → kid' i = kid i) (hr : ∀ i, i < n → ready' i = ready i) :
    ListenerOk l n kid' ready' := by
  rcases h with ⟨q, h⟩ | ⟨hz, hno⟩
  · refine .inl ⟨q, h.active, h.slots, h.short, h.ring, h.used, h.nodup, ?_, ?_, ?_, ?_, h.le⟩
    · intro x
      rw [h.mem x]
      constructor
      · rintro ⟨i, hi, he, hri⟩
        exact ⟨i, hi, he, (hr i hi).trans hri⟩
      · rintro ⟨i, hi, he, hri⟩
        exact ⟨i, hi, he, (hr i hi).symm.trans hri⟩
    · intro i hi hri
      rw [hr i hi] at hri
      rw [hk i hi]
      exact h.sub i hi hri
    · rw [h.total, countBelow_congr hr]
    · rw [h.count, countBelow_congr hk]
  · exact .inr ⟨hz, fun i hi => (hk i hi).trans (hno i hi)⟩

/-- A socket more that is no child. -/
theorem ListenerOk.grow (h : ListenerOk l n kid ready)
    (hk : ∀ i, i < n → kid' i = kid i) (hr : ∀ i, i < n → ready' i = ready i)
    (hkn : kid' n = false) (hrn : ready' n = false) : ListenerOk l (n + 1) kid' ready' := by
  rcases h.congr hk hr with ⟨q, h⟩ | ⟨hz, hno⟩
  · refine .inl ⟨q, h.active, h.slots, h.short, h.ring, h.used, h.nodup, ?_, ?_, ?_, ?_, h.le⟩
    · intro x
      rw [h.mem x]
      constructor
      · rintro ⟨i, hi, he, hri⟩
        exact ⟨i, by omega, he, hri⟩
      · rintro ⟨i, hi, he, hri⟩
        have hne : i ≠ n := by
          rintro rfl
          rw [hrn] at hri
          cases hri
        exact ⟨i, by omega, he, hri⟩
    · intro i hi hri
      have hne : i ≠ n := by
        rintro rfl
        rw [hrn] at hri
        cases hri
      exact h.sub i (by omega) hri
    · rw [h.total, countBelow_succ, hrn]
      rfl
    · rw [h.count, countBelow_succ, hkn]
      rfl
  · refine .inr ⟨hz, ?_⟩
    intro i hi
    by_cases hne : i = n
    · rw [hne, hkn]
    · exact hno i (by omega)

/-- **A child arrives** while the backlog has room. -/
theorem ListenerOk.arrive (h : ListenerOk l n kid ready) (hact : l.active = true)
    (hroom : l.backlogUsed < l.backlogLen)
    (hk : ∀ i, i < n → kid' i = kid i) (hr : ∀ i, i < n → ready' i = ready i)
    (hkn : kid' n = true) (hrn : ready' n = false) :
    ListenerOk { l with backlogUsed := l.backlogUsed + 1 } (n + 1) kid' ready' := by
  have hlt := UInt32.lt_iff_toNat_lt.mp hroom
  have hadd : (l.backlogUsed + 1).toNat = l.backlogUsed.toNat + 1 := by
    have := l.backlogLen.toNat_lt
    rw [UInt32.toNat_add]
    show (l.backlogUsed.toNat + 1) % 4294967296 = _
    omega
  rcases h.congr hk hr with ⟨q, h⟩ | ⟨hz, -⟩
  · refine .inl ⟨q, h.active, h.slots, h.short, h.ring, h.used, h.nodup, ?_, ?_, ?_, ?_, ?_⟩
    · intro x
      rw [h.mem x]
      constructor
      · rintro ⟨i, hi, he, hri⟩
        exact ⟨i, by omega, he, hri⟩
      · rintro ⟨i, hi, he, hri⟩
        have hne : i ≠ n := by
          rintro rfl
          rw [hrn] at hri
          cases hri
        exact ⟨i, by omega, he, hri⟩
    · intro i hi hri
      have hne : i ≠ n := by
        rintro rfl
        rw [hrn] at hri
        cases hri
      exact h.sub i (by omega) hri
    · rw [h.total, countBelow_succ, hrn]
      rfl
    · show (l.backlogUsed + 1).toNat = _
      rw [hadd, h.count, countBelow_succ, hkn]
      rfl
    · show (l.backlogUsed + 1).toNat ≤ _
      rw [hadd]
      exact hlt
  · rw [hz] at hact
    cases hact

theorem toNat_listenerBacklogPut (l : Listener) :
    (listenerBacklogPut l).backlogUsed.toNat = l.backlogUsed.toNat - 1 := by
  unfold listenerBacklogPut
  split
  · next h =>
    have hlt := UInt32.lt_iff_toNat_lt.mp h
    show (l.backlogUsed - 1).toNat = _
    rw [UInt32.toNat_sub_of_le]
    · rfl
    · exact UInt32.le_iff_toNat_le.mpr hlt
  · next h =>
    have : ¬0 < l.backlogUsed.toNat := fun hlt => h (UInt32.lt_iff_toNat_lt.mpr hlt)
    omega

/-- Only the count of children differs. -/
theorem listenerBacklogPut_fields (l : Listener) :
    listenerBacklogPut l = { l with backlogUsed := (listenerBacklogPut l).backlogUsed } := by
  unfold listenerBacklogPut
  split
  · rfl
  · rfl

/-- A child less that was not in the ring. -/
theorem ListenerOpen.put (h : ListenerOpen l n kid ready q) {i : Nat} (hi : i < n)
    (hki : kid i = true) (hri : ready i = false) (hki' : kid' i = false)
    (hk : ∀ j, j < n → j ≠ i → kid' j = kid j) (hr : ∀ j, j < n → ready' j = ready j) :
    ListenerOpen (listenerBacklogPut l) n kid' ready' q := by
  have hdrop := countBelow_drop hi hki hki' hk
  have hput := toNat_listenerBacklogPut l
  rw [listenerBacklogPut_fields] at hput ⊢
  refine ⟨h.active, h.slots, h.short, h.ring, h.used, h.nodup, ?_, ?_, ?_, ?_, ?_⟩
  · intro x
    rw [h.mem x]
    constructor
    · rintro ⟨j, hj, he, hrj⟩
      exact ⟨j, hj, he, (hr j hj).trans hrj⟩
    · rintro ⟨j, hj, he, hrj⟩
      exact ⟨j, hj, he, (hr j hj).symm.trans hrj⟩
  · intro j hj hrj
    rw [hr j hj] at hrj
    have hne : j ≠ i := by
      rintro rfl
      rw [hri] at hrj
      cases hrj
    rw [hk j hj hne]
    exact h.sub j hj hrj
  · rw [h.total, countBelow_congr hr]
  · rw [hput, h.count]
    omega
  · rw [hput]
    exact Nat.le_trans (Nat.sub_le _ _) h.le

/-- A child that is not ready is in no cell, so detaching it only counts. -/
theorem ListenerOpen.detached_eq (h : ListenerOpen l n kid ready q) (hn : n ≤ maxSockets) {i : Nat}
    (hi : i < n) (hri : ready i = false) :
    detached l (UInt32.ofNat i) = listenerBacklogPut l := by
  have hq : UInt32.ofNat i ∉ q := by
    intro hin
    obtain ⟨j, hj, he, hrj⟩ := (h.mem _).mp hin
    rw [ofNat_sock_inj (by omega) (by omega) he, hrj] at hri
    cases hri
  have hnone : (List.range l.backlogLen.toNat).find?
      (fun c => l.readySids c == UInt32.ofNat i) = none := by
    apply List.find?_eq_none.mpr
    intro c hc he
    exact h.ring.absent (ofNat_ne_idInvalid (Nat.lt_of_lt_of_le hi hn)) hq (List.mem_range.mp hc)
      (eq_of_beq he)
  unfold detached
  rw [hnone]
  split
  · rfl
  · rfl

/-- **A child leaves** before its handshake is complete. -/
theorem ListenerOk.leave (h : ListenerOk l n kid ready) (hn : n ≤ maxSockets) {i : Nat}
    (hi : i < n) (hki : kid i = true) (hri : ready i = false) (hki' : kid' i = false)
    (hk : ∀ j, j < n → j ≠ i → kid' j = kid j) (hr : ∀ j, j < n → ready' j = ready j) :
    ListenerOk (detached l (UInt32.ofNat i)) n kid' ready' := by
  rcases h with ⟨q, h⟩ | ⟨-, hno⟩
  · rw [h.detached_eq hn hi hri]
    exact .inl ⟨q, h.put hi hki hri hki' hk hr⟩
  · rw [hno i hi] at hki
    cases hki

/-- The listener with one more child in its ring. -/
def ringPush (l : Listener) (id : UInt32) : Listener :=
  { l with
    readySids := fun c => if c = (wrapAdd l.readyHead l.readyUsed l.backlogLen).toNat then id
      else l.readySids c
    readyUsed := l.readyUsed + 1 }

/-- **A child completes its handshake.** There is room for it. -/
theorem ListenerOk.push (h : ListenerOk l n kid ready) (hn : n ≤ maxSockets) {i : Nat}
    (hi : i < n) (hki : kid i = true) (hri : ready i = false) (hri' : ready' i = true)
    (hk : ∀ j, j < n → kid' j = kid j) (hr : ∀ j, j < n → j ≠ i → ready' j = ready j) :
    l.active = true ∧ l.readyUsed < l.backlogLen ∧
      ListenerOk (ringPush l (UInt32.ofNat i)) n kid' ready' := by
  rcases h with ⟨q, h⟩ | ⟨-, hno⟩
  · have hroom := h.ready_lt hi hki hri
    have hshort := h.short
    have hstart : l.readyHead.toNat < l.backlogLen.toNat := by
      rcases h.ring.start with hs | hs
      · exact hs
      · omega
    have hpos := toNat_wrapAdd hstart (Nat.le_of_lt hroom) (by omega)
    have hadd : (l.readyUsed + 1).toNat = l.readyUsed.toNat + 1 := by
      rw [UInt32.toNat_add]
      show (l.readyUsed.toNat + 1) % 4294967296 = _
      omega
    have hcount : countBelow n ready' = countBelow n ready + 1 :=
      countBelow_drop hi hri' hri (fun j hj hne => (hr j hj hne).symm)
    have hnew : UInt32.ofNat i ∉ q := by
      intro hin
      obtain ⟨j, hj, he, hrj⟩ := (h.mem _).mp hin
      rw [ofNat_sock_inj (by omega) (by omega) he, hrj] at hri
      cases hri
    refine ⟨h.active, UInt32.lt_iff_toNat_lt.mpr hroom, .inl ⟨q ++ [UInt32.ofNat i], ?_⟩⟩
    unfold ringPush
    refine ⟨h.active, h.slots, h.short, ?_, ?_, ?_, ?_, ?_, ?_, ?_, h.le⟩
    · show RingList idInvalid (fun c => if c = (wrapAdd l.readyHead l.readyUsed
        l.backlogLen).toNat then UInt32.ofNat i else l.readySids c) _ _ _
      rw [hpos, h.used]
      exact h.ring.push _ (by rw [← h.used]; exact hroom)
    · show (l.readyUsed + 1).toNat = _
      rw [hadd, h.used, List.length_append, List.length_singleton]
    · rw [List.nodup_append]
      refine ⟨h.nodup, List.nodup_cons.mpr ⟨List.not_mem_nil, List.nodup_nil⟩, ?_⟩
      intro x hx y hy he
      rw [List.mem_singleton] at hy
      rw [he, hy] at hx
      exact hnew hx
    · intro x
      rw [List.mem_append, List.mem_singleton, h.mem x]
      constructor
      · rintro (⟨j, hj, he, hrj⟩ | he)
        · refine ⟨j, hj, he, ?_⟩
          by_cases hne : j = i
          · rw [hne]
            exact hri'
          · rw [hr j hj hne]
            exact hrj
        · exact ⟨i, hi, he, hri'⟩
      · rintro ⟨j, hj, he, hrj⟩
        by_cases hne : j = i
        · rw [he, hne]
          exact .inr rfl
        · rw [hr j hj hne] at hrj
          exact .inl ⟨j, hj, he, hrj⟩
    · intro j hj hrj
      rw [hk j hj]
      by_cases hne : j = i
      · rw [hne]
        exact hki
      · rw [hr j hj hne] at hrj
        exact h.sub j hj hrj
    · rw [List.length_append, List.length_singleton, hcount, h.total]
    · rw [countBelow_congr hk]
      exact h.count
  · rw [hno i hi] at hki
    cases hki

theorem toNat_pred {x : UInt32} (h : x ≠ 0) : (x - 1).toNat = x.toNat - 1 := by
  have hpos : x.toNat ≠ 0 := fun hz => h (UInt32.toNat.inj hz)
  rw [UInt32.toNat_sub_of_le]
  · rfl
  · apply UInt32.le_iff_toNat_le.mpr
    show 1 ≤ x.toNat
    omega

/-- The head moves on by one cell. -/
theorem ringPop_readyHead (hshort : l.backlogLen.toNat < 2147483648)
    (hstart : l.readyHead.toNat < l.backlogLen.toNat) :
    (ringPop l).readyHead.toNat = (l.readyHead.toNat + 1) % l.backlogLen.toNat := by
  have hadd : (l.readyHead + 1).toNat = l.readyHead.toNat + 1 := by
    rw [UInt32.toNat_add]
    show (l.readyHead.toNat + 1) % 4294967296 = _
    omega
  show (if l.readyHead + 1 ≥ l.backlogLen then (0 : UInt32) else l.readyHead + 1).toNat = _
  by_cases hge : l.readyHead + 1 ≥ l.backlogLen
  · have hge' := UInt32.le_iff_toNat_le.mp hge
    rw [hadd] at hge'
    rw [if_pos hge, show l.readyHead.toNat + 1 = l.backlogLen.toNat by omega, Nat.mod_self]
    rfl
  · have hlt : (l.readyHead + 1).toNat < l.backlogLen.toNat :=
      UInt32.lt_iff_toNat_lt.mp (UInt32.not_le.mp hge)
    rw [hadd] at hlt
    rw [if_neg hge, hadd, Nat.mod_eq_of_lt hlt]

/-- **The first ready child is accepted.** -/
theorem ListenerOpen.accept {x : UInt32} (h : ListenerOpen l n kid ready (x :: q))
    (hn : n ≤ maxSockets) :
    l.readySids l.readyHead.toNat = x ∧ l.readyUsed ≠ 0 ∧
    ∃ i, i < n ∧ x = UInt32.ofNat i ∧ ready i = true ∧
      ∀ kid' ready' : Nat → Bool, kid' i = false → ready' i = false →
        (∀ j, j < n → j ≠ i → kid' j = kid j) → (∀ j, j < n → j ≠ i → ready' j = ready j) →
        ListenerOpen (listenerBacklogPut (ringPop l)) n kid' ready' q := by
  obtain ⟨hfirst, hring⟩ := h.ring.pop
  obtain ⟨i, hi, hx, hri⟩ := (h.mem x).mp List.mem_cons_self
  have hused := h.used
  rw [List.length_cons] at hused
  have hne0 : l.readyUsed ≠ 0 := by
    intro hz
    rw [hz] at hused
    cases hused
  have hstart : l.readyHead.toNat < l.backlogLen.toNat := by
    rcases h.ring.start with hs | hs
    · exact hs
    · have hfits := h.ring.fits
      rw [List.length_cons] at hfits
      omega
  refine ⟨hfirst, hne0, i, hi, hx, hri, ?_⟩
  intro kid' ready' hki' hri' hk hr
  have hdropk := countBelow_drop hi (h.sub i hi hri) hki' hk
  have hdropr := countBelow_drop hi hri hri' hr
  have hxq : x ∉ q := (List.nodup_cons.mp h.nodup).1
  have hsub := toNat_pred hne0
  have hhead := ringPop_readyHead h.short hstart
  have hput := toNat_listenerBacklogPut (ringPop l)
  rw [listenerBacklogPut_fields] at hput ⊢
  have hcount := h.count
  have htotal := h.total
  rw [List.length_cons] at htotal
  refine ⟨h.active, h.slots, h.short, ?_, ?_, (List.nodup_cons.mp h.nodup).2, ?_, ?_, ?_, ?_, ?_⟩
  · show RingList idInvalid (ringPop l).readySids _ (ringPop l).readyHead.toNat q
    rw [hhead]
    exact hring
  · show (l.readyUsed - 1).toNat = _
    omega
  · intro y
    constructor
    · intro hy
      obtain ⟨j, hj, he, hrj⟩ := (h.mem y).mp (List.mem_cons_of_mem _ hy)
      have hne : j ≠ i := by
        rintro rfl
        rw [he, ← hx] at hy
        exact hxq hy
      exact ⟨j, hj, he, (hr j hj hne).trans hrj⟩
    · rintro ⟨j, hj, he, hrj⟩
      have hne : j ≠ i := by
        rintro rfl
        rw [hri'] at hrj
        cases hrj
      rw [hr j hj hne] at hrj
      rcases List.mem_cons.mp ((h.mem y).mpr ⟨j, hj, he, hrj⟩) with hyx | hy
      · rw [hyx, hx] at he
        exact absurd (ofNat_sock_inj (by omega) (by omega) he).symm hne
      · exact hy
  · intro j hj hrj
    have hne : j ≠ i := by
      rintro rfl
      rw [hri'] at hrj
      cases hrj
    rw [hr j hj hne] at hrj
    rw [hk j hj hne]
    exact h.sub j hj hrj
  · omega
  · rw [hput]
    show l.backlogUsed.toNat - 1 = _
    omega
  · rw [hput]
    exact Nat.le_trans (Nat.sub_le _ _) h.le

/-- **A listener is opened** for a socket without children. -/
theorem ListenerOk.openNew (backlog : UInt32) (hshort : backlog.toNat < 2147483648)
    (hk : ∀ i, i < n → kid i = false) (hr : ∀ i, i < n → ready i = false) :
    ListenerOk (listenerOpen listenerZero backlog) n kid ready := by
  refine .inl ⟨[], rfl, rfl, hshort, RingList.nil _ _, rfl, List.nodup_nil, ?_, ?_, ?_, ?_,
    Nat.zero_le _⟩
  · intro x
    constructor
    · exact nofun
    · rintro ⟨i, hi, -, hri⟩
      rw [hr i hi] at hri
      cases hri
  · intro i hi hri
    rw [hr i hi] at hri
    cases hri
  · exact (countBelow_zero hr).symm
  · exact (countBelow_zero hk).symm

end listener

end Chamelio.Tcp
