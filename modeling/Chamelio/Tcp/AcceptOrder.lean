import Mathlib.Data.List.Nodup
import Chamelio.Tcp.KidNext

/-!
# Accepting in order

Beside the state runs a history: for each listener the children that were
pushed into its ready ring and the ones an accept took out of it since the
listener was opened, the sockets that were closed at some time, and the
sockets an application was handed.

The ring holds the children that were pushed and not yet reached, in order,
with an empty cell for each one that was closed while it waited
(`RingInv`). A close empties the child's cell wherever it is, and an accept
drops empty cells until it meets a child: so children come out in the order
they went in, and one is passed over only if it was closed.
-/

namespace Chamelio.Tcp

open Chamelio.Lib Chamelio.Util Chamelio.Pkt Chamelio.Fast

/-- A listener since it was opened. -/
structure Period where
  pushed : List Nat
  popped : List Nat

def Period.start : Period := { pushed := [], popped := [] }

/-- The history after a move. -/
def record (hist : Nat → Period) : KidEv → Nat → Period
  | .readied k i => fun j =>
    if j = k then { hist k with pushed := (hist k).pushed ++ [i] } else hist j
  | .taken k i => fun j =>
    if j = k then { hist k with popped := (hist k).popped ++ [i] } else hist j
  | .opened k => fun j => if j = k then Period.start else hist j
  | .shut k => fun j => if j = k then Period.start else hist j
  | _ => hist

instance (ctx : TcpSlowCtx) (k i : Nat) : Decidable (Waits ctx k i) :=
  inferInstanceAs (Decidable (_ ∧ _ ∧ _))

/-- The cell of a child that was pushed: empty when it waits no more. -/
def cellOf (ctx : TcpSlowCtx) (k i : Nat) : UInt32 :=
  if Waits ctx k i then UInt32.ofNat i else idInvalid

/-- The ring of listener `k`: `gone` are the children accepts have reached,
`waiting` the ones that are still in the ring; `D` were closed. -/
structure RingInv (ctx : TcpSlowCtx) (k : Nat) (p : Period) (D : Nat → Prop)
    (gone waiting : List Nat) : Prop where
  split : p.pushed = gone ++ waiting
  slots : (ctx.listeners k).readySlots.isSome = true
  short : (ctx.listeners k).backlogLen.toNat < 2147483648
  ring : RingList idInvalid (ctx.listeners k).readySids (ctx.listeners k).backlogLen.toNat
    (ctx.listeners k).readyHead.toNat (waiting.map (cellOf ctx k))
  used : (ctx.listeners k).readyUsed.toNat = waiting.length
  popped : p.popped.Sublist gone
  passed : ∀ x ∈ gone, x ∈ p.popped ∨ D x
  wait : ∀ x ∈ waiting, Waits ctx k x ∨ D x
  nodup : p.pushed.Nodup
  old : ∀ x ∈ p.pushed, x < ctx.nSocks ∧ (ctx.kid x).state ≠ .synRecv

/-- A listener in use with its ring, or a zeroed one. -/
def ListenerRing (ctx : TcpSlowCtx) (k : Nat) (p : Period) (D : Nat → Prop) : Prop :=
  ((ctx.listeners k).active = true ∧ ∃ gone waiting, RingInv ctx k p D gone waiting) ∨
    (ctx.listeners k = listenerZero ∧ p = Period.start)

structure AcceptInv (ctx : TcpSlowCtx) (hist : Nat → Period) (D : Nat → Prop) : Prop where
  marked : Marked ctx
  ring : ∀ k, ListenerRing ctx k (hist k) D

theorem SlowInit.accept {ctx : TcpSlowCtx} (h : SlowInit ctx) (D : Nat → Prop) :
    AcceptInv ctx (fun _ => Period.start) D :=
  ⟨h.marked, fun k => .inr ⟨h.listeners k, rfl⟩⟩

/-! ## A listener that is left alone -/

section keeping

variable {a b : TcpSlowCtx} {k : Nat} {p : Period} {D D' : Nat → Prop}

theorem waits_congr {x : Nat} (h : b.kid x = a.kid x) (ha : x < a.nSocks) (hb : x < b.nSocks) :
    Waits b k x ↔ Waits a k x := by
  unfold Waits
  rw [h]
  exact ⟨fun hw => ⟨ha, hw.2⟩, fun hw => ⟨hb, hw.2⟩⟩

theorem not_waits {x : Nat} (h : ¬(a.kid x).of k) : ¬Waits a k x := fun hw => h hw.2.1

/-- The children of `k` wait as before. -/
structure KeepsRing (a b : TcpSlowCtx) (k : Nat) : Prop where
  listener : b.listeners k = a.listeners k ∨ ((a.listeners k).active = true ∧
    ∃ u, b.listeners k = { a.listeners k with backlogUsed := u })
  nSocks : a.nSocks ≤ b.nSocks
  waits : ∀ x, x < a.nSocks → (Waits b k x ↔ Waits a k x)
  old : ∀ x, x < a.nSocks → (a.kid x).state ≠ .synRecv → (b.kid x).state ≠ .synRecv

theorem KeepsRing.refl (a : TcpSlowCtx) (k : Nat) : KeepsRing a a k :=
  ⟨.inl rfl, Nat.le_refl _, fun _ _ => Iff.rfl, fun _ _ hs => hs⟩

theorem RingInv.keep {g w : List Nat} (h : RingInv a k p D g w) (hk : KeepsRing a b k)
    (hD : ∀ x, D x → D' x) : RingInv b k p D' g w := by
  have hl : ∃ u, b.listeners k = { a.listeners k with backlogUsed := u } := by
    rcases hk.listener with he | ⟨-, he⟩
    · exact ⟨_, he⟩
    · exact he
  obtain ⟨u, hl⟩ := hl
  have hlt : ∀ x ∈ w, x < a.nSocks := by
    intro x hx
    exact (h.old x (by rw [h.split]; exact List.mem_append_right _ hx)).1
  have hcell : w.map (cellOf b k) = w.map (cellOf a k) := by
    apply List.map_congr_left
    intro x hx
    unfold cellOf
    simp only [hk.waits x (hlt x hx)]
  refine ⟨h.split, ?_, ?_, ?_, ?_, h.popped, ?_, ?_, h.nodup, ?_⟩
  · rw [hl]
    exact h.slots
  · rw [hl]
    exact h.short
  · rw [hl, hcell]
    exact h.ring
  · rw [hl]
    exact h.used
  · intro x hx
    rcases h.passed x hx with hp | hd
    · exact .inl hp
    · exact .inr (hD x hd)
  · intro x hx
    rcases h.wait x hx with hw | hd
    · exact .inl ((hk.waits x (hlt x hx)).mpr hw)
    · exact .inr (hD x hd)
  · intro x hx
    obtain ⟨hxa, hst⟩ := h.old x hx
    exact ⟨Nat.lt_of_lt_of_le hxa hk.nSocks, hk.old x hxa hst⟩

theorem ListenerRing.keep (h : ListenerRing a k p D) (hk : KeepsRing a b k)
    (hD : ∀ x, D x → D' x) : ListenerRing b k p D' := by
  rcases h with ⟨hact, g, w, hr⟩ | ⟨hz, hp⟩
  · refine .inl ⟨?_, g, w, hr.keep hk hD⟩
    rcases hk.listener with he | ⟨-, u, he⟩
    · rw [he]
      exact hact
    · rw [he]
      exact hact
  · refine .inr ⟨?_, hp⟩
    rcases hk.listener with he | ⟨hact, -⟩
    · rw [he]
      exact hz
    · rw [hz] at hact
      cases hact

/-- Calm steps. -/
theorem KidsSame.keepsRing (hs : KidsSame a b) (hb : Marked b) (k : Nat) : KeepsRing a b k := by
  refine ⟨.inl (by rw [hs.listeners]), Nat.le_of_eq hs.nSocks.symm, ?_, ?_⟩
  · intro x hx
    have hstay := hs.kid x hx
    have hof : (b.kid x).of k ↔ (a.kid x).of k := by
      unfold Kid.of
      rw [hstay.mark]
    unfold Waits
    rw [hs.nSocks, hof]
    rcases hstay.state with hst | hfree
    · rw [hst]
    · constructor
      · exact fun hw => absurd hfree hw.2.1.1
      · exact fun hw => absurd hfree hw.2.1.1
  · intro x hx hne
    have hstay := hs.kid x hx
    rcases hstay.state with hst | hfree
    · rw [hst]
      exact hne
    · exact ((hb.kid x (by rw [hs.nSocks]; exact hx)).other (hstay.mark.trans hfree)).1

/-- A socket changed that is no child of `k`. -/
theorem KidAt.keepsRing {i : Nat} {x : Kid} {ls : Nat → Listener} (hat : KidAt a b i x ls)
    (hk : ls k = a.listeners k) (hold : ¬(a.kid i).of k) (hnew : ¬x.of k)
    (hst : x.state ≠ .synRecv) : KeepsRing a b k := by
  refine ⟨.inl (by rw [hat.listener, hk]), Nat.le_of_eq hat.nSocks.symm, ?_, ?_⟩
  · intro y hy
    have hky := hat.kid y hy
    by_cases hyi : y = i
    · rw [if_pos hyi] at hky
      have hb : ¬(b.kid y).of k := by
        rw [hky]
        exact hnew
      have ha : ¬(a.kid y).of k := by
        rw [hyi]
        exact hold
      exact ⟨fun hw => absurd hw (not_waits hb), fun hw => absurd hw (not_waits ha)⟩
    · rw [if_neg hyi] at hky
      exact waits_congr hky hy (by rw [hat.nSocks]; exact hy)
  · intro y hy hne
    rw [hat.kid y hy]
    split
    · exact hst
    · exact hne

/-- A socket more. -/
theorem KidNew.keepsRing {x : Kid} {ls : Nat → Listener} (hn : KidNew a b x ls)
    (hk : ls k = a.listeners k ∨ ((a.listeners k).active = true ∧
      ∃ u, ls k = { a.listeners k with backlogUsed := u })) : KeepsRing a b k := by
  have hkid : ∀ y, y < a.nSocks → b.kid y = a.kid y := by
    intro y hy
    rw [hn.kid y (by omega), if_neg (by omega)]
  refine ⟨by rw [hn.listener]; exact hk, by rw [hn.nSocks]; exact Nat.le_succ _, ?_, ?_⟩
  · intro y hy
    exact waits_congr (hkid y hy) hy (by rw [hn.nSocks]; omega)
  · intro y hy hne
    rw [hkid y hy]
    exact hne

end keeping

/-! ## The listener that moves -/

section moving

variable {a b : TcpSlowCtx} {k i : Nat} {p : Period} {D : Nat → Prop} {g w : List Nat}

/-- **A child is pushed**: it is the last of the ring. -/
theorem RingInv.pushed (h : RingInv a k p D g w) (hm : KidMove a b (.readied k i)) :
    RingInv b k { p with pushed := p.pushed ++ [i] } D g (w ++ [i]) := by
  obtain ⟨hi, hof, hst, hcell, hat⟩ := hm
  have hkid : b.kid i = { a.kid i with state := .acceptPending, kind := .none } :=
    (hat.kid i hi).trans (if_pos rfl)
  have hl : b.listeners k = ringPush (a.listeners k) (UInt32.ofNat i) := by
    rw [hat.listener]
    exact if_pos rfl
  have hwi : Waits b k i := by
    refine ⟨by rw [hat.nSocks]; exact hi, ?_, by rw [hkid]⟩
    rw [hkid]
    exact hof
  have hnew : i ∉ p.pushed := fun hin => (h.old i hin).2 hst
  have hlt : ∀ x ∈ w, x < a.nSocks ∧ x ≠ i := by
    intro x hx
    have hin : x ∈ p.pushed := by
      rw [h.split]
      exact List.mem_append_right _ hx
    exact ⟨(h.old x hin).1, fun he => hnew (he ▸ hin)⟩
  have hwaits : ∀ x ∈ w, (Waits b k x ↔ Waits a k x) := by
    intro x hx
    obtain ⟨hxa, hxi⟩ := hlt x hx
    exact waits_congr ((hat.kid x hxa).trans (if_neg hxi)) hxa (by rw [hat.nSocks]; exact hxa)
  have hmap : (w ++ [i]).map (cellOf b k) = w.map (cellOf a k) ++ [UInt32.ofNat i] := by
    rw [List.map_append, List.map_singleton]
    congr 1
    · apply List.map_congr_left
      intro x hx
      unfold cellOf
      simp only [hwaits x hx]
    · unfold cellOf
      rw [if_pos hwi]
  have hroom := UInt32.lt_iff_toNat_lt.mp hcell.2
  have hshort := h.short
  have hstart : (a.listeners k).readyHead.toNat < (a.listeners k).backlogLen.toNat := by
    rcases h.ring.start with hs | hs
    · exact hs
    · omega
  have hpos := toNat_wrapAdd hstart (Nat.le_of_lt hroom) (by omega)
  have hadd : ((a.listeners k).readyUsed + 1).toNat = (a.listeners k).readyUsed.toNat + 1 := by
    rw [UInt32.toNat_add]
    show ((a.listeners k).readyUsed.toNat + 1) % 4294967296 = _
    omega
  refine ⟨?_, by rw [hl]; exact h.slots, ?_, ?_, ?_, h.popped, h.passed, ?_, ?_, ?_⟩
  · show p.pushed ++ [i] = _
    rw [h.split, List.append_assoc]
  · rw [hl]
    exact h.short
  · rw [hl, hmap]
    show RingList idInvalid (fun c => if c = (wrapAdd (a.listeners k).readyHead
      (a.listeners k).readyUsed (a.listeners k).backlogLen).toNat then UInt32.ofNat i
      else (a.listeners k).readySids c) _ _ _
    have hlen : (w.map (cellOf a k)).length = (a.listeners k).readyUsed.toNat := by
      rw [List.length_map, h.used]
    rw [hpos, ← hlen]
    exact h.ring.push _ (by rw [hlen]; exact hroom)
  · rw [hl, List.length_append, List.length_singleton, ← h.used]
    exact hadd
  · intro x hx
    rcases List.mem_append.mp hx with hx | hx
    · rcases h.wait x hx with hw | hd
      · exact .inl ((hwaits x hx).mpr hw)
      · exact .inr hd
    · rw [List.mem_singleton.mp hx]
      exact .inl hwi
  · rw [List.nodup_append]
    refine ⟨h.nodup, List.nodup_cons.mpr ⟨List.not_mem_nil, List.nodup_nil⟩, ?_⟩
    rintro x hx y hy rfl
    rw [List.mem_singleton.mp hy] at hx
    exact hnew hx
  · intro x hx
    rw [hat.nSocks]
    rcases List.mem_append.mp hx with hx | hx
    · obtain ⟨hxa, hxs⟩ := h.old x hx
      refine ⟨hxa, ?_⟩
      rw [hat.kid x hxa]
      split
      · exact SockState.noConfusion
      · exact hxs
    · rw [List.mem_singleton.mp hx, hkid]
      exact ⟨hi, SockState.noConfusion⟩

/-- The ring of a listener after a child was detached. -/
theorem detached_ring {l : Listener} (hact : l.active = true) (hslots : l.readySlots.isSome)
    (id : UInt32) : ∃ u, detached l id = { l with
      backlogUsed := u
      readySids := match (List.range l.backlogLen.toNat).find? (fun c => l.readySids c == id) with
        | none => l.readySids
        | some c => fun j => if j = c then idInvalid else l.readySids j } := by
  unfold detached
  rw [if_pos ⟨hact, hslots⟩, listenerBacklogPut_fields]
  cases (List.range l.backlogLen.toNat).find? (fun c => l.readySids c == id) with
  | none => exact ⟨_, rfl⟩
  | some c => exact ⟨_, rfl⟩

/-- The cells hold different children. -/
theorem cellOf_inj {x y : Nat} (hb : Base a) (hx : cellOf a k x = UInt32.ofNat i)
    (hi : i < a.nSocks) (hy : cellOf a k y = UInt32.ofNat i) : x = i ∧ y = i := by
  have hone : ∀ z, cellOf a k z = UInt32.ofNat i → z = i := by
    intro z hz
    unfold cellOf at hz
    split at hz
    · next hw => exact ofNat_sock_inj (hb.lt hw.1) (hb.lt hi) hz
    · exact absurd hz.symm (ofNat_ne_idInvalid (hb.lt hi))
  exact ⟨hone x hx, hone y hy⟩

/-- **A child is closed**: its cell, if it has one, is empty. -/
theorem RingInv.gone {r : Bool} (h : RingInv a k p D g w) (hb : Base a)
    (hact : (a.listeners k).active = true) (hm : KidMove a b (.gone i r))
    (hof : (a.kid i).of k) :
    (b.listeners k).active = true ∧ RingInv b k p (fun x => D x ∨ x = i) g w := by
  obtain ⟨hi, -, -, hat⟩ := hm
  have hkid : b.kid i = kidClosed := (hat.kid i hi).trans (if_pos rfl)
  have hl : b.listeners k = detached (a.listeners k) (UInt32.ofNat i) := by
    rw [hat.listener]
    exact if_pos ⟨hof.1, hof.2.symm⟩
  obtain ⟨u, hd⟩ := detached_ring hact h.slots (UInt32.ofNat i)
  rw [hd] at hl
  have hnw : ¬Waits b k i := by
    apply not_waits
    rw [hkid]
    exact fun hc => hc.1 rfl
  have hlt : ∀ x ∈ w, x < a.nSocks := by
    intro x hx
    exact (h.old x (by rw [h.split]; exact List.mem_append_right _ hx)).1
  have hwaits : ∀ x ∈ w, x ≠ i → (Waits b k x ↔ Waits a k x) := by
    intro x hx hxi
    exact waits_congr ((hat.kid x (hlt x hx)).trans (if_neg hxi)) (hlt x hx)
      (by rw [hat.nSocks]; exact hlt x hx)
  have hmap : w.map (cellOf b k) =
      (w.map (cellOf a k)).map (fun y => if y = UInt32.ofNat i then idInvalid else y) := by
    rw [List.map_map]
    apply List.map_congr_left
    intro x hx
    show cellOf b k x = if cellOf a k x = UInt32.ofNat i then idInvalid else cellOf a k x
    by_cases hxi : x = i
    · rw [hxi]
      unfold cellOf
      rw [if_neg hnw]
      by_cases hw : Waits a k i
      · rw [if_pos hw, if_pos rfl]
      · rw [if_neg hw, if_neg (ofNat_ne_idInvalid (hb.lt hi)).symm]
    · rw [if_neg (fun hc => hxi (cellOf_inj hb hc hi hc).1)]
      unfold cellOf
      simp only [hwaits x hx hxi]
  have hwnodup : w.Nodup := by
    have hnd := h.nodup
    rw [h.split, List.nodup_append] at hnd
    exact hnd.2.1
  have honce : ∀ m n : Nat, (w.map (cellOf a k))[m]? = some (UInt32.ofNat i) →
      (w.map (cellOf a k))[n]? = some (UInt32.ofNat i) → m = n := by
    intro m n hm hn
    rw [List.getElem?_map, Option.map_eq_some_iff] at hm hn
    obtain ⟨x, hx, hxc⟩ := hm
    obtain ⟨y, hy, hyc⟩ := hn
    obtain ⟨rfl, rfl⟩ := cellOf_inj hb hxc hi hyc
    obtain ⟨hm', hxm⟩ := List.getElem?_eq_some_iff.mp hx
    obtain ⟨hn', hyn⟩ := List.getElem?_eq_some_iff.mp hy
    exact (List.Nodup.getElem_inj_iff hwnodup).mp (hxm.trans hyn.symm)
  refine ⟨by rw [hl]; exact hact, h.split, by rw [hl]; exact h.slots, by rw [hl]; exact h.short,
    ?_, by rw [hl]; exact h.used, h.popped, ?_, ?_, h.nodup, ?_⟩
  · rw [hl, hmap]
    exact h.ring.erase (ofNat_ne_idInvalid (hb.lt hi)) honce
  · intro x hx
    rcases h.passed x hx with hp | hd
    · exact .inl hp
    · exact .inr (.inl hd)
  · intro x hx
    by_cases hxi : x = i
    · exact .inr (.inr hxi)
    · rcases h.wait x hx with hw | hd
      · exact .inl ((hwaits x hx hxi).mpr hw)
      · exact .inr (.inl hd)
  · intro x hx
    obtain ⟨hxa, hxs⟩ := h.old x hx
    rw [hat.nSocks]
    refine ⟨hxa, ?_⟩
    rw [hat.kid x hxa]
    split
    · exact SockState.noConfusion
    · exact hxs

/-- The ring without its first cell. -/
theorem RingInv.head_lt {x : Nat} (h : RingInv a k p D g (x :: w)) :
    (a.listeners k).readyHead.toNat < (a.listeners k).backlogLen.toNat ∧
      (a.listeners k).readyUsed ≠ 0 ∧
      (a.listeners k).readySids (a.listeners k).readyHead.toNat = cellOf a k x ∧
      RingList idInvalid (ringPop (a.listeners k)).readySids
        (a.listeners k).backlogLen.toNat (ringPop (a.listeners k)).readyHead.toNat
        (w.map (cellOf a k)) := by
  have hring := h.ring
  rw [List.map_cons] at hring
  have hfits := hring.fits
  rw [List.length_cons] at hfits
  have hstart : (a.listeners k).readyHead.toNat < (a.listeners k).backlogLen.toNat := by
    rcases hring.start with hs | hs
    · exact hs
    · omega
  obtain ⟨hfirst, hrest⟩ := hring.pop
  refine ⟨hstart, ?_, hfirst, ?_⟩
  · intro hz
    have hused := h.used
    rw [hz, List.length_cons] at hused
    cases hused
  · rw [ringPop_readyHead h.short hstart]
    exact hrest

theorem RingInv.waiting_cons (h : RingInv a k p D g w) (hused : (a.listeners k).readyUsed ≠ 0) :
    ∃ x ws, w = x :: ws := by
  cases w with
  | nil => exact absurd (UInt32.toNat.inj h.used) hused
  | cons x ws => exact ⟨x, ws, rfl⟩

/-- **An empty cell is dropped**: its child was closed. -/
theorem RingInv.skipped (h : RingInv a k p D g w) (hb : Base a)
    (hm : KidMove a b (.skipped k)) :
    (b.listeners k).active = true ∧ ∃ x ws, w = x :: ws ∧ RingInv b k p D (g ++ [x]) ws := by
  obtain ⟨hact, hused, hcell, -, hn, hkid, hl⟩ := hm
  obtain ⟨x, ws, rfl⟩ := h.waiting_cons hused
  obtain ⟨-, -, hfirst, hrest⟩ := h.head_lt
  have hlk : b.listeners k = ringPop (a.listeners k) := by
    rw [hl]
    exact if_pos rfl
  have hxw : ¬Waits a k x := by
    intro hw
    unfold cellOf at hfirst
    rw [if_pos hw, hcell] at hfirst
    exact ofNat_ne_idInvalid (hb.lt hw.1) hfirst.symm
  have hlt : ∀ y ∈ x :: ws, y < a.nSocks := by
    intro y hy
    exact (h.old y (by rw [h.split]; exact List.mem_append_right _ hy)).1
  have hwaits : ∀ y ∈ x :: ws, (Waits b k y ↔ Waits a k y) := by
    intro y hy
    exact waits_congr (hkid y (hlt y hy)) (hlt y hy) (by rw [hn]; exact hlt y hy)
  have hmap : ws.map (cellOf b k) = ws.map (cellOf a k) := by
    apply List.map_congr_left
    intro y hy
    unfold cellOf
    simp only [hwaits y (List.mem_cons_of_mem _ hy)]
  refine ⟨by rw [hlk]; exact hact, x, ws, rfl, ?_, by rw [hlk]; exact h.slots,
    by rw [hlk]; exact h.short, ?_, ?_, ?_, ?_, ?_, h.nodup, ?_⟩
  · rw [h.split, List.append_assoc]
    rfl
  · rw [hlk, hmap]
    exact hrest
  · rw [hlk]
    show ((a.listeners k).readyUsed - 1).toNat = _
    rw [toNat_pred hused, h.used]
    rfl
  · exact h.popped.trans (List.sublist_append_left g [x])
  · intro y hy
    rcases List.mem_append.mp hy with hy | hy
    · exact h.passed y hy
    · rw [List.mem_singleton.mp hy]
      exact .inr ((h.wait x List.mem_cons_self).resolve_left hxw)
  · intro y hy
    rcases h.wait y (List.mem_cons_of_mem _ hy) with hw | hd
    · exact .inl ((hwaits y (List.mem_cons_of_mem _ hy)).mpr hw)
    · exact .inr hd
  · intro y hy
    obtain ⟨hya, hys⟩ := h.old y hy
    rw [hn, hkid y hya]
    exact ⟨hya, hys⟩

/-- The child an accept meets is the first one that waits. -/
theorem RingInv.first (h : RingInv a k p D g w) (hb : Base a) (hi : i < a.nSocks)
    (hused : (a.listeners k).readyUsed ≠ 0)
    (hcell : (a.listeners k).readySids (a.listeners k).readyHead.toNat = UInt32.ofNat i) :
    ∃ ws, w = i :: ws := by
  obtain ⟨x, ws, rfl⟩ := h.waiting_cons hused
  obtain ⟨-, -, hfirst, -⟩ := h.head_lt
  rw [hcell] at hfirst
  exact ⟨ws, by rw [(cellOf_inj hb hfirst.symm hi hfirst.symm).1]⟩

/-- **A child is taken.** -/
theorem RingInv.taken (h : RingInv a k p D g w) (hb : Base a) (hm : KidMove a b (.taken k i)) :
    (b.listeners k).active = true ∧ ∃ ws, w = i :: ws ∧
      RingInv b k { p with popped := p.popped ++ [i] } D (g ++ [i]) ws := by
  obtain ⟨⟨hi, hof, hst⟩, hact, hused, hcell, hat⟩ := hm
  obtain ⟨ws, rfl⟩ := h.first hb hi hused hcell
  obtain ⟨-, -, -, hrest⟩ := h.head_lt
  have hlk : ∃ u, b.listeners k = { ringPop (a.listeners k) with backlogUsed := u } := by
    refine ⟨(listenerBacklogPut (ringPop (a.listeners k))).backlogUsed, ?_⟩
    rw [hat.listener, ← listenerBacklogPut_fields]
    exact if_pos rfl
  obtain ⟨u, hlk⟩ := hlk
  have hnd := h.nodup
  rw [h.split, List.nodup_append] at hnd
  have hne : ∀ y ∈ ws, y ≠ i := by
    rintro y hy rfl
    exact (List.nodup_cons.mp hnd.2.1).1 hy
  have hlt : ∀ y ∈ ws, y < a.nSocks := by
    intro y hy
    exact (h.old y (by
      rw [h.split]
      exact List.mem_append_right _ (List.mem_cons_of_mem _ hy))).1
  have hwaits : ∀ y ∈ ws, (Waits b k y ↔ Waits a k y) := by
    intro y hy
    exact waits_congr ((hat.kid y (hlt y hy)).trans (if_neg (hne y hy))) (hlt y hy)
      (by rw [hat.nSocks]; exact hlt y hy)
  have hmap : ws.map (cellOf b k) = ws.map (cellOf a k) := by
    apply List.map_congr_left
    intro y hy
    unfold cellOf
    simp only [hwaits y hy]
  refine ⟨by rw [hlk]; exact hact, ws, rfl, ?_, by rw [hlk]; exact h.slots,
    by rw [hlk]; exact h.short, ?_, ?_, ?_, ?_, ?_, h.nodup, ?_⟩
  · show p.pushed = _
    rw [h.split, List.append_assoc]
    rfl
  · rw [hlk, hmap]
    exact hrest
  · rw [hlk]
    show ((a.listeners k).readyUsed - 1).toNat = _
    rw [toNat_pred hused, h.used]
    rfl
  · exact h.popped.append (List.Sublist.refl [i])
  · intro y hy
    rcases List.mem_append.mp hy with hy | hy
    · rcases h.passed y hy with hp | hd
      · exact .inl (List.mem_append_left _ hp)
      · exact .inr hd
    · exact .inl (List.mem_append_right _ hy)
  · intro y hy
    rcases h.wait y (List.mem_cons_of_mem _ hy) with hw | hd
    · exact .inl ((hwaits y hy).mpr hw)
    · exact .inr hd
  · intro y hy
    obtain ⟨hya, hys⟩ := h.old y hy
    rw [hat.nSocks]
    refine ⟨hya, ?_⟩
    rw [hat.kid y hya]
    split
    · exact SockState.noConfusion
    · exact hys

/-- **A listener opens** with an empty ring. -/
theorem ringInv_opened {backlog : UInt32} (hshort : backlog.toNat < 2147483648)
    (hl : b.listeners k = listenerOpen listenerZero backlog) :
    (b.listeners k).active = true ∧ RingInv b k Period.start D [] [] := by
  rw [hl]
  refine ⟨rfl, rfl, by rw [hl]; rfl, by rw [hl]; exact hshort, ?_, by rw [hl]; rfl,
    List.Sublist.slnil, nofun, nofun, List.nodup_nil, nofun⟩
  rw [hl]
  exact RingList.nil _ _

end moving

/-! ## Every move -/

section moves

variable {a b : TcpSlowCtx} {hist : Nat → Period} {D : Nat → Prop}

theorem ListenerRing.opened {k : Nat} {p : Period} (h : ListenerRing a k p D)
    (hact : (a.listeners k).active = true) : ∃ gone waiting, RingInv a k p D gone waiting := by
  rcases h with ⟨-, hr⟩ | ⟨hz, -⟩
  · exact hr
  · rw [hz] at hact
    cases hact

/-- A listener that is not in use has no ring to detach from. -/
theorem detached_listenerZero (id : UInt32) : detached listenerZero id = listenerZero := by
  unfold detached
  rw [if_neg (fun hc => Bool.false_ne_true hc.1)]
  rfl

/-- Marked by one listener only. -/
theorem Kid.of_ne {x : Kid} {j k : Nat} (h : x.of k) (hne : j ≠ k) : ¬x.of j :=
  fun hj => hne (hj.2.symm.trans h.2)

theorem KidMove.skipped_keeps {j k : Nat} (hm : KidMove a b (.skipped k)) (hne : j ≠ k) :
    KeepsRing a b j := by
  obtain ⟨-, -, -, -, hn, hkid, hl⟩ := hm
  refine ⟨.inl (by rw [hl]; exact if_neg hne), Nat.le_of_eq hn.symm, ?_, ?_⟩
  · intro x hx
    exact waits_congr (hkid x hx) hx (by rw [hn]; exact hx)
  · intro x hx hst
    rw [hkid x hx]
    exact hst

theorem KidMove.shut_keeps {j k : Nat} (hm : KidMove a b (.shut k)) (hne : j ≠ k) :
    KeepsRing a b j := by
  obtain ⟨-, hn, hfree, hkid, hl⟩ := hm
  refine ⟨.inl (by rw [hl]; exact if_neg hne), Nat.le_of_eq hn.symm, ?_, ?_⟩
  · intro x hx
    have hkx := hkid x hx
    split at hkx
    · next hgone =>
      -- A child of `k`, or the listener itself: no child of `j` before or after.
      have hb : ¬(b.kid x).of j := by
        rw [hkx]
        exact fun hc => hc.1 rfl
      have ha : ¬(a.kid x).of j := by
        rcases hgone with ⟨hof, -⟩ | hxk
        · exact Kid.of_ne hof hne
        · rw [hxk]
          exact fun hc => hc.1 hfree
      exact ⟨fun hw => absurd hw (not_waits hb), fun hw => absurd hw (not_waits ha)⟩
    · exact waits_congr hkx hx (by rw [hn]; exact hx)
  · intro x hx hst
    rw [hkid x hx]
    split
    · exact SockState.noConfusion
    · exact hst

/-- The sockets that were closed, after a move. -/
def goneBy (D : Nat → Prop) (l : List KidEv) (x : Nat) : Prop := D x ∨ ∃ r, .gone x r ∈ l

theorem ListenerRing.gone {i k : Nat} {r : Bool} {p : Period} (h : ListenerRing a k p D)
    (hb : Base a) (hm : KidMove a b (.gone i r)) :
    ListenerRing b k p (goneBy D [.gone i r]) := by
  have hD : ∀ x, D x ∨ x = i → goneBy D [.gone i r] x := by
    rintro x (hx | rfl)
    · exact .inl hx
    · exact .inr ⟨r, List.mem_singleton.mpr rfl⟩
  by_cases hof : (a.kid i).of k
  · rcases h with ⟨hact, g, w, hr⟩ | ⟨hz, hp⟩
    · obtain ⟨hact', hr'⟩ := hr.gone hb hact hm hof
      exact .inl ⟨hact', g, w, hr'.keep (KeepsRing.refl b k) hD⟩
    · refine .inr ⟨?_, hp⟩
      rw [hm.2.2.2.listener]
      show (if _ then detached (a.listeners k) _ else a.listeners k) = _
      rw [hz, detached_listenerZero, ite_self]
  · refine h.keep (hm.2.2.2.keepsRing ?_ hof (fun hc => hc.1 rfl) SockState.noConfusion)
      (fun x hx => .inl hx)
    exact if_neg (fun hc => hof ⟨hc.1, hc.2.symm⟩)

/-- **One move.** -/
theorem AcceptInv.move {e : KidEv} (h : AcceptInv a hist D) (hm : KidMove a b e) :
    AcceptInv b (record hist e) (goneBy D [e]) := by
  have hD : ∀ x, D x → goneBy D [e] x := fun x hx => .inl hx
  refine ⟨h.marked.move hm, ?_⟩
  intro j
  cases e with
  | grown =>
    obtain ⟨x, -, hn⟩ := hm
    exact (h.ring j).keep (hn.keepsRing (.inl rfl)) hD
  | arrived k =>
    obtain ⟨m, -, -, hact, -, hn⟩ := hm
    refine (h.ring j).keep (hn.keepsRing ?_) hD
    show (if j = k then _ else a.listeners j) = _ ∨ _ ∧ ∃ u, (if j = k then _ else _) = _
    by_cases hj : j = k
    · rw [if_pos hj, hj]
      exact .inr ⟨hact, _, rfl⟩
    · rw [if_neg hj]
      exact .inl rfl
  | readied k i =>
    by_cases hj : j = k
    · subst hj
      obtain ⟨g, w, hr⟩ := (h.ring j).opened hm.2.2.2.1.1
      rw [show record hist (.readied j i) j = _ from if_pos rfl]
      refine .inl ⟨?_, g, w ++ [i], (hr.pushed hm).keep (KeepsRing.refl b j) hD⟩
      rw [hm.2.2.2.2.listener]
      show Listener.active (if j = j then _ else _) = true
      rw [if_pos rfl]
      exact hm.2.2.2.1.1
    · rw [show record hist (.readied k i) j = _ from if_neg hj]
      obtain ⟨-, hof, -, -, hat⟩ := hm
      exact (h.ring j).keep (hat.keepsRing (if_neg hj) (Kid.of_ne hof hj) (Kid.of_ne hof hj)
        SockState.noConfusion) hD
  | gone i r => exact (h.ring j).gone h.marked.base hm
  | skipped k =>
    by_cases hj : j = k
    · subst hj
      obtain ⟨g, w, hr⟩ := (h.ring j).opened hm.1
      obtain ⟨hact, x, ws, -, hr'⟩ := hr.skipped h.marked.base hm
      exact .inl ⟨hact, _, ws, hr'.keep (KeepsRing.refl b j) hD⟩
    · exact (h.ring j).keep (hm.skipped_keeps hj) hD
  | taken k i =>
    by_cases hj : j = k
    · subst hj
      obtain ⟨g, w, hr⟩ := (h.ring j).opened hm.2.1
      obtain ⟨hact, ws, -, hr'⟩ := hr.taken h.marked.base hm
      rw [show record hist (.taken j i) j = _ from if_pos rfl]
      exact .inl ⟨hact, _, ws, hr'.keep (KeepsRing.refl b j) hD⟩
    · rw [show record hist (.taken k i) j = _ from if_neg hj]
      obtain ⟨⟨-, hof, -⟩, -, -, -, hat⟩ := hm
      exact (h.ring j).keep (hat.keepsRing (if_neg hj) (Kid.of_ne hof hj) (fun hc => hc.1 rfl)
        SockState.noConfusion) hD
  | opened k =>
    obtain ⟨-, hfree, hinact, backlog, hshort, hat⟩ := hm
    by_cases hj : j = k
    · subst hj
      rw [show record hist (.opened j) j = _ from if_pos rfl]
      have hz : a.listeners j = listenerZero := by
        rcases h.ring j with ⟨hact, -⟩ | ⟨hz, -⟩
        · rw [hinact] at hact
          cases hact
        · exact hz
      have hl : b.listeners j = listenerOpen listenerZero backlog := by
        rw [hat.listener, ← hz]
        exact if_pos rfl
      obtain ⟨hact, hr⟩ := ringInv_opened (D := goneBy D [.opened j]) hshort hl
      exact .inl ⟨hact, [], [], hr⟩
    · rw [show record hist (.opened k) j = _ from if_neg hj]
      exact (h.ring j).keep (hat.keepsRing (if_neg hj) (fun hc => hc.1 hfree)
        (fun hc => hc.1 hfree) SockState.noConfusion) hD
  | shut k =>
    by_cases hj : j = k
    · subst hj
      rw [show record hist (.shut j) j = _ from if_pos rfl]
      refine .inr ⟨?_, rfl⟩
      rw [hm.2.2.2.2]
      exact if_pos rfl
    · rw [show record hist (.shut k) j = _ from if_neg hj]
      exact (h.ring j).keep (hm.shut_keeps hj) hD

theorem AcceptInv.moves {l : List KidEv} (h : AcceptInv a hist D) (hm : KidMoves a l b) :
    AcceptInv b (l.foldl record hist) (goneBy D l) := by
  induction hm with
  | nil =>
    exact ⟨h.marked, fun k => (h.ring k).keep (KeepsRing.refl a k) (fun x hx => .inl hx)⟩
  | calm _ hs ih =>
    have hmark := ih.marked.kids hs
    exact ⟨hmark, fun k => (ih.ring k).keep (hs.keepsRing hmark k) (fun _ hx => hx)⟩
  | move _ hmv ih =>
    rw [List.foldl_append]
    obtain ⟨hmark, hring⟩ := ih.move hmv
    refine ⟨hmark, fun k => (hring k).keep (KeepsRing.refl _ k) ?_⟩
    rintro x ((hx | ⟨r, hr⟩) | ⟨r, hr⟩)
    · exact .inl hx
    · exact .inr ⟨r, List.mem_append_left _ hr⟩
    · exact .inr ⟨r, List.mem_append_right _ hr⟩

/-- Only visible moves are recorded. -/
theorem foldl_record_visible (l : List KidEv) (hist : Nat → Period) :
    l.foldl record hist = (l.filter KidEv.visible).foldl record hist := by
  induction l generalizing hist with
  | nil => rfl
  | cons e l ih =>
    rw [List.foldl_cons, ih, List.filter_cons]
    cases e with
    | grown => rfl
    | arrived k => rfl
    | readied k i => rfl
    | gone i r => rfl
    | skipped k => rfl
    | taken k i => rfl
    | opened k => rfl
    | shut k => rfl

/-- Every filled cell holds a child that waits. -/
theorem AcceptInv.cells (h : AcceptInv a hist D) (k : Nat) : CellsWait a k := by
  rcases h.ring k with ⟨-, g, w, hr⟩ | ⟨hz, -⟩
  · refine ⟨?_, ?_⟩
    · intro hused
      obtain ⟨x, ws, rfl⟩ := hr.waiting_cons hused
      exact hr.head_lt.1
    · intro pos hpos
      rcases hr.ring.rest pos hpos with he | ⟨j, hj, he⟩
      · exact .inl he
      · have hq := List.getElem?_eq_getElem hj
        have hcell := hr.ring.cell j _ hq
        rw [he, hcell, List.getElem_map]
        unfold cellOf
        split
        · next hw => exact .inr ⟨_, rfl, hw⟩
        · exact .inl rfl
  · refine ⟨?_, ?_⟩
    · rw [hz]
      exact fun hc => absurd rfl hc
    · rw [hz]
      intro pos hpos
      exact absurd hpos (Nat.not_lt_zero pos)

end moves

/-! ## Sockets without a mark -/

section free

variable {a b : TcpSlowCtx} {i : Nat}

/-- A socket that no listener marks. -/
def Free (ctx : TcpSlowCtx) (i : Nat) : Prop :=
  i < ctx.nSocks ∧ (ctx.kid i).mark = idInvalid

theorem KidAt.free {j : Nat} {x : Kid} {ls : Nat → Listener} (hat : KidAt a b j x ls)
    (h : Free a i) (hx : i = j → x.mark = idInvalid) : Free b i := by
  refine ⟨by rw [hat.nSocks]; exact h.1, ?_⟩
  rw [hat.kid i h.1]
  split
  · next hij => exact hx hij
  · exact h.2

theorem KidNew.free {x : Kid} {ls : Nat → Listener} (hn : KidNew a b x ls) (h : Free a i) :
    Free b i := by
  have hi := h.1
  refine ⟨by rw [hn.nSocks]; omega, ?_⟩
  rw [hn.kid i (by omega), if_neg (by omega)]
  exact h.2

/-- A mark is only given to a new socket. -/
theorem KidMove.free {e : KidEv} (hm : KidMove a b e) (h : Free a i) : Free b i := by
  cases e with
  | grown => exact hm.choose_spec.2.free h
  | arrived k => exact hm.choose_spec.2.2.2.2.free h
  | readied k j => exact hm.2.2.2.2.free h (fun hij => by rw [← hij]; exact h.2)
  | gone j r => exact hm.2.2.2.free h (fun _ => rfl)
  | skipped k =>
    obtain ⟨-, -, -, -, hn, hkid, -⟩ := hm
    refine ⟨by rw [hn]; exact h.1, ?_⟩
    rw [hkid i h.1]
    exact h.2
  | taken k j => exact hm.2.2.2.2.free h (fun _ => rfl)
  | opened k =>
    obtain ⟨-, hfree, -, _, -, hat⟩ := hm
    exact hat.free h (fun _ => hfree)
  | shut k =>
    obtain ⟨-, hn, -, hkid, -⟩ := hm
    refine ⟨by rw [hn]; exact h.1, ?_⟩
    rw [hkid i h.1]
    split
    · rfl
    · exact h.2

/-- The move took the mark from socket `i`. -/
def Frees (i : Nat) : KidEv → Prop
  | .gone j _ => j = i
  | .taken _ j => j = i
  | _ => False

theorem KidMove.frees {e : KidEv} (hm : KidMove a b e) (he : Frees i e) : Free b i := by
  cases e with
  | gone j r =>
    obtain ⟨hj, -, -, hat⟩ := hm
    cases he
    exact ⟨by rw [hat.nSocks]; exact hj, by rw [hat.kid _ hj, if_pos rfl]; rfl⟩
  | taken k j =>
    obtain ⟨⟨hj, -⟩, -, -, -, hat⟩ := hm
    cases he
    exact ⟨by rw [hat.nSocks]; exact hj, by rw [hat.kid _ hj, if_pos rfl]⟩
  | grown => exact he.elim
  | arrived k => exact he.elim
  | readied k j => exact he.elim
  | skipped k => exact he.elim
  | opened k => exact he.elim
  | shut k => exact he.elim

theorem KidMoves.free {l : List KidEv} (hm : KidMoves a l b)
    (h : Free a i ∨ ∃ e ∈ l, Frees i e) : Free b i := by
  induction hm with
  | nil =>
    rcases h with h | ⟨e, he, -⟩
    · exact h
    · cases he
  | calm _ hs ih =>
    have hf := ih h
    exact ⟨by rw [hs.nSocks]; exact hf.1, (hs.kid i hf.1).mark.trans hf.2⟩
  | move _ hmv ih =>
    rcases h with h | ⟨e, he, hfe⟩
    · exact hmv.free (ih (.inl h))
    · rcases List.mem_append.mp he with he | he
      · exact hmv.free (ih (.inr ⟨e, he, hfe⟩))
      · rw [List.mem_singleton.mp he] at hfe
        exact hmv.frees hfe

/-- A new socket has no mark. -/
theorem free_appNewSock (appId ctxId : UInt8) (opaquePtr : UInt64)
    (hnew : a.nSocks < (appNewSock a appId ctxId opaquePtr).nSocks) :
    Free (appNewSock a appId ctxId opaquePtr) a.nSocks := by
  unfold appNewSock at hnew ⊢
  have hall := tcpSockAlloc_cases a opaquePtr appId ctxId (a.appBumpQids appId ctxId 0)
  generalize tcpSockAlloc a opaquePtr appId ctxId _ = r at hall hnew ⊢
  obtain ⟨c, sid⟩ := r
  rcases hall with ⟨hsid, hu⟩ | ⟨hsid, ha⟩
  · dsimp only at hsid hu
    rw [hsid] at hnew
    exact absurd hnew (Nat.not_lt_of_le (Nat.le_of_eq hu.nSocks))
  · dsimp only at hsid ha
    rw [hsid]
    have hs := kids_appSubmit c appId ctxId (.newSockRes (c.sock a.nSocks))
    have hlt : a.nSocks < c.nSocks := by
      rw [ha.nSocks]
      exact Nat.lt_succ_self _
    exact ⟨by rw [hs.nSocks]; exact hlt, (hs.kid _ hlt).mark.trans ha.listenerId⟩

end free

/-! ## Every run -/

/-- The slow path with what was seen of it: the history of each listener,
the sockets that were closed at some time, and the ones applications were
handed, by `tcp_socket` or by an accept. -/
structure AcceptSys where
  ctx : TcpSlowCtx
  hist : Nat → Period
  closed : Nat → Bool
  handed : Nat → Bool

def acceptBegin (ctx : TcpSlowCtx) : AcceptSys :=
  { ctx, hist := fun _ => Period.start, closed := fun _ => false, handed := fun _ => false }

/-- The sockets an event hands to an application. -/
def handedBy (ctx : TcpSlowCtx) (act : SlowAct) (i : Nat) : Bool :=
  match act with
  | .newSock .. => i == ctx.nSocks && decide (ctx.nSocks < (slowNext ctx act).nSocks)
  | .accept _ _ sockId _ => decide (.taken sockId.toNat i ∈ visibleMoves ctx act)
  | _ => false

def acceptStep (s : AcceptSys) (act : SlowAct) : AcceptSys × Unit :=
  let ctx := slowNext s.ctx act
  ({ ctx
     hist := (visibleMoves s.ctx act).foldl record s.hist
     closed := fun i => s.closed i || decide (i < ctx.nSocks ∧ (ctx.sock i).state = .closed)
     handed := fun i => s.handed i || handedBy s.ctx act i }, ())

/-- Applications connect and listen on the sockets they were handed, and
listen on one that does not listen yet; the backlog of `tcp_listen` is an
`int`. They may close any open socket, so a child before it is accepted, and
of the closed ones those they were handed. -/
def AcceptOk (s : AcceptSys) : SlowAct → Prop
  | .connect _ _ sockId _ _ _ => sockId.toNat < s.ctx.nSocks → s.handed sockId.toNat = true
  | .listen _ _ sockId backlog _ _ =>
    sockId.toNat < s.ctx.nSocks → s.handed sockId.toNat = true ∧
      (s.ctx.listeners sockId.toNat).active = false ∧ backlog.toNat < 2147483648
  | .close sockId => sockId.toNat < s.ctx.nSocks →
    s.handed sockId.toNat = true ∨ (s.ctx.sock sockId.toNat).state ≠ .closed
  | _ => True

instance (s : AcceptSys) (act : SlowAct) : Decidable (AcceptOk s act) :=
  match act with
  | .connect .. => inferInstanceAs (Decidable (_ → _))
  | .listen .. => inferInstanceAs (Decidable (_ → _))
  | .close _ => inferInstanceAs (Decidable (_ → _))
  | .newSock .. | .setopt .. | .bind .. | .accept .. | .shutdown .. | .segment .. | .timeout _
  | .fastRx _ | .fastDeq _ | .fastSched _ | .drain _ => inferInstanceAs (Decidable True)

structure AcceptSysInv (s : AcceptSys) : Prop where
  inv : AcceptInv s.ctx s.hist (fun x => s.closed x = true)
  handed : ∀ i, s.handed i = true → Free s.ctx i

theorem AcceptSysInv.ok {s : AcceptSys} {act : SlowAct} (h : AcceptSysInv s)
    (hok : AcceptOk s act) : Handed s.ctx act := by
  cases act with
  | connect => exact fun hlt => (h.handed _ (hok hlt)).2
  | listen => exact fun hlt => ⟨(h.handed _ (hok hlt).1).2, (hok hlt).2⟩
  | close => exact fun hlt => (hok hlt).imp_left fun hh => (h.handed _ hh).2
  | newSock | setopt | bind | accept | shutdown | segment | timeout | fastRx | fastDeq
  | fastSched | drain => trivial

theorem AcceptSysInv.next {s : AcceptSys} {act : SlowAct} (h : AcceptSysInv s)
    (hok : AcceptOk s act) : AcceptSysInv (acceptStep s act).1 := by
  obtain ⟨l, hl, hvis⟩ := h.inv.marked.handled (h.ok hok) h.inv.cells
  refine ⟨?_, ?_⟩
  · have hinv := h.inv.moves hl.moves
    rw [foldl_record_visible, hvis] at hinv
    refine ⟨hinv.marked, fun k => (hinv.ring k).keep (KeepsRing.refl _ k) ?_⟩
    rintro x (hx | ⟨r, hr⟩)
    · exact Bool.or_eq_true_iff.mpr (.inl hx)
    · have hfree := hl.moves.free (.inr ⟨_, hr, show Frees x (.gone x r) from rfl⟩)
      exact Bool.or_eq_true_iff.mpr (.inr (decide_eq_true ⟨hfree.1, hl.closed x r hr⟩))
  · intro i hi
    rcases Bool.or_eq_true_iff.mp hi with hi | hi
    · exact hl.moves.free (.inl (h.handed i hi))
    · unfold handedBy at hi
      split at hi
      · obtain ⟨he, hlt⟩ := Bool.and_eq_true_iff.mp hi
        rw [beq_iff_eq] at he
        subst he
        exact free_appNewSock _ _ _ (of_decide_eq_true hlt)
      · have hin := of_decide_eq_true hi
        rw [← hvis] at hin
        exact hl.moves.free (.inr ⟨_, List.mem_of_mem_filter hin, rfl⟩)
      · cases hi

/-- What accepts get from listener `k`, since it was opened. -/
structure AcceptOrder (s : AcceptSys) (k : Nat) : Prop where
  /-- No child is handed out twice. -/
  once : (s.hist k).popped.Nodup
  /-- They come out in the order they were pushed. -/
  order : (s.hist k).popped.Sublist (s.hist k).pushed
  /-- Whoever was pushed before a child that came out came out too, or was
  closed. -/
  passed : ∀ before i after, (s.hist k).pushed = before ++ i :: after → i ∈ (s.hist k).popped →
    ∀ x ∈ before, x ∈ (s.hist k).popped ∨ s.closed x = true
  /-- The child the next accept returns. -/
  next : ∀ i, (tcpListenerReadyPop s.ctx (s.ctx.sock k).id).2 = some i →
    ∃ before after, (s.hist k).pushed = before ++ i :: after ∧
      (s.hist k).popped.Sublist before ∧
      ∀ x ∈ before, x ∈ (s.hist k).popped ∨ s.closed x = true
  /-- An accept returns none only if there is none left. -/
  none : (tcpListenerReadyPop s.ctx (s.ctx.sock k).id).2 = none →
    ∀ x ∈ (s.hist k).pushed, x ∈ (s.hist k).popped ∨ s.closed x = true

theorem RingInv.passed_before {ctx : TcpSlowCtx} {k : Nat} {p : Period} {D : Nat → Prop}
    {g w : List Nat} (h : RingInv ctx k p D g w) {before after : List Nat} {i : Nat}
    (hp : p.pushed = before ++ i :: after) (hi : i ∈ p.popped) :
    ∀ x ∈ before, x ∈ p.popped ∨ D x := by
  have hnd := h.nodup
  rw [h.split, List.nodup_append] at hnd
  have hig : i ∈ g := h.popped.subset hi
  intro x hx
  rw [h.split] at hp
  rcases List.append_eq_append_iff.mp hp with ⟨bs, hb, hw⟩ | ⟨as, hg, -⟩
  · -- Then `i` would still wait.
    have hiw : i ∈ w := by
      rw [hw]
      exact List.mem_append_right _ List.mem_cons_self
    exact absurd rfl (hnd.2.2 i hig i hiw)
  · apply h.passed
    rw [hg]
    exact List.mem_append_left _ hx

/-- Dropping empty cells leaves the history as it is. -/
theorem AcceptInv.skips {a b : TcpSlowCtx} {hist : Nat → Period} {D : Nat → Prop} {k : Nat}
    {l : List KidEv} (h : AcceptInv a hist D) (hl : Skips k l) (hm : KidMoves a l b) :
    AcceptInv b hist D := by
  have hinv := h.moves hm
  rw [foldl_record_visible, hl.filter] at hinv
  refine ⟨hinv.marked, fun j => (hinv.ring j).keep (KeepsRing.refl b j) ?_⟩
  rintro x (hx | ⟨r, hr⟩)
  · exact hx
  · exact absurd hr (hl.not_gone x r)

theorem AcceptSysInv.acceptOrder {s : AcceptSys} (h : AcceptSysInv s) {k : Nat}
    (hk : k < s.ctx.nSocks) : AcceptOrder s k := by
  have hpop := popped_tcpListenerReadyPop h.inv.marked.base hk (h.inv.cells k)
  rw [← h.inv.marked.base.id k hk] at hpop
  have hring := h.inv.ring k
  refine ⟨?_, ?_, ?_, ?_, ?_⟩
  · rcases hring with ⟨-, g, w, hr⟩ | ⟨-, hp⟩
    · have hnd := hr.nodup
      rw [hr.split] at hnd
      exact hnd.sublist (hr.popped.trans (List.sublist_append_left g w))
    · rw [hp]
      exact List.nodup_nil
  · rcases hring with ⟨-, g, w, hr⟩ | ⟨-, hp⟩
    · rw [hr.split]
      exact hr.popped.trans (List.sublist_append_left g w)
    · rw [hp]
      exact List.Sublist.slnil
  · intro before i after hp hi
    rcases hring with ⟨-, g, w, hr⟩ | ⟨-, hstart⟩
    · exact hr.passed_before hp hi
    · rw [hstart] at hi
      cases hi
  · intro i hi
    obtain ⟨l, c, hl, hm, hwait, hact, hused, hcell, -⟩ := hpop.some i hi
    have hinv := h.inv.skips hl hm
    obtain ⟨g, w, hr⟩ := (hinv.ring k).opened hact
    obtain ⟨ws, rfl⟩ := hr.first hinv.marked.base hwait.1 hused hcell
    exact ⟨g, ws, hr.split, hr.popped, hr.passed⟩
  · intro hnone x hx
    obtain ⟨hend, l, hl, hm⟩ := hpop.none hnone
    have hinv := h.inv.skips hl hm
    rcases hinv.ring k with ⟨hact, g, w, hr⟩ | ⟨-, hp⟩
    · have hused : w = [] := by
        rcases hend with hc | hc
        · rw [hact] at hc
          cases hc
        · have hlen := hr.used
          rw [hc] at hlen
          exact List.eq_nil_of_length_eq_zero hlen.symm
      rw [hr.split, hused, List.append_nil] at hx
      exact hr.passed x hx
    · rw [hp] at hx
      cases hx

/-- **Accepts, along every run**: each listener hands out its children once
each, in the order they became ready, and passes over none but the closed. -/
theorem accept_in_order {ctx₀ : TcpSlowCtx} {s : AcceptSys} {log : List Unit}
    (h₀ : SlowInit ctx₀) (hr : Run AcceptOk acceptStep (acceptBegin ctx₀) log s) (k : Nat)
    (hk : k < s.ctx.nSocks) : AcceptOrder s k := by
  have hinv : AcceptSysInv s := Run.inv (I := fun _ s => AcceptSysInv s)
    ⟨h₀.accept _, fun _ hc => absurd hc Bool.false_ne_true⟩ (fun _ _ _ h hok => h.next hok) hr
  exact hinv.acceptOrder hk

section clients

/-- A segment from a port of `10.0.0.2` to the listener at port 1002. -/
def portSegment (port : UInt16) (seq ack : UInt32) (flags : UInt16) : SlowAct :=
  .segment (ctlPktFill
    { localIp := 0x0a000002, localPort := port, remoteIp := 0x0a000001, remotePort := 1002
      seq, ack, flags, wnd := 1000, tsRecent := none }) 0

/-- Two clients complete their handshakes, the first one resets its
connection, and the application accepts. -/
def acceptRun : List SlowAct :=
  [.newSock 0 0 0, .bind 0 0 0 0x0a000001 1002 0, .listen 0 0 0 2 0 true,
    portSegment 40000 100 0 tcpSyn, portSegment 40001 100 0 tcpSyn,
    portSegment 40000 101 2 tcpAck, portSegment 40001 101 2 tcpAck,
    portSegment 40000 101 2 tcpRst, .accept 0 0 0 0]

/-- The accept passes over the child that was reset. -/
theorem accept_in_order_clients :
    let s := (execAll acceptStep acceptRun (acceptBegin freshSlow)).2
    ((s.hist 0).pushed = [1, 2] ∧ (s.hist 0).popped = [2] ∧ s.closed 1 = true ∧
      s.closed 2 = false) ∧ AcceptOrder s 0 :=
  ⟨by decide +kernel, accept_in_order freshSlow_init
    (Run.execOk acceptRun Run.nil (by decide +kernel)) 0 (by decide +kernel)⟩

end clients

end Chamelio.Tcp
