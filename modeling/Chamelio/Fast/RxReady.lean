import Chamelio.Lib.Fifo
import Chamelio.Lib.Run
import Chamelio.Fast.RxDispatch

/-!
# Frames only go to guests that are ready

A core hears of its guests through its control queue. The control path
announces guest `n` when it counts `n` guests and counts it when all cores
have been told, so the requests it passes on for a guest stand behind that
guest's announcement. An accept that fails half-way is tried again under the
same number, and then the core counts the guest once more; its counter has
eight bits.

Whatever the order of messages and frames, a guest with an uploaded program
or a protocol was announced (`Known`). A poll then does the right thing with
exactly the frames of `FrameOk` (`rx_dispatch`): the eBPF loop calls the
machine of a guest that has none, and a table entry can name a guest behind
the array.
-/

namespace Chamelio.Fast

open Chamelio.Lib Chamelio.Control Chamelio.Netvirt

/-! ## One poll -/

/-- What the control messages a core has heard leave behind. -/
structure RxCore.Known (c : RxCore) : Prop where
  /-- The configuration parser accepts the combined loop for eBPF only. -/
  comb : c.fpJitCombined = true → c.fpProtoMode = .ebpf
  guest : ∀ k, k < chamelioMaxGuests →
    (c.ctx.guests k).hasEvents = true ∨ (c.ctx.guests k).protoType ≠ chamProtoInvalid →
    (c.ctx.guests k).id = k ∧ k < c.ctx.nGuests

section

variable {c : RxCore} {fr : RxFrame} {m : Mbufs}

theorem protoHandEventRx_set {t : Nat} {h : RxHandler} (hp : protoHandEventRx t = some h) :
    t ≠ chamProtoInvalid := by
  intro ht
  rw [ht] at hp
  cases hp

/-- The condition on a frame is one on the guest `infra_rx` names. -/
theorem frameOk_iff : c.FrameOk fr ↔ ∀ gid, infraRx c fr = some gid → c.TakesFrames gid := by
  unfold RxCore.FrameOk infraRx processRxIp
  by_cases harp : fr.ethType = Arp.ethTypeArp
  · simp [harp]
  · by_cases hv : c.virtGre = true
    · cases hg : netvirtTableGet c.innerTable fr.greKey fr.innerDst <;> simp [harp, hv]
    · simp [harp, hv]

/-- A poll gets past the choice of a handler just for such a guest. -/
theorem rxPick_ok_iff {gid : Nat} : (∃ h, rxPick c gid = .ok h) ↔ c.TakesFrames gid := by
  unfold rxPick RxCore.TakesFrames rxSwitch
  by_cases hb : chamelioMaxGuests ≤ gid
  · simp [hb, Nat.not_lt.mpr hb]
  · have hlt : gid < chamelioMaxGuests := Nat.not_le.mp hb
    cases hc : c.fpJitCombined with
    | true => simp [hb, hlt]
    | false =>
      cases hm : c.fpProtoMode with
      | ebpf => cases he : (c.ctx.guests gid).hasEvents <;> simp [hb, hlt]
      | hand => simp [hb, hlt]
      | unknown => simp [hb, hlt]

theorem rxPick_lt {gid : Nat} {h : Option RxHandler} (hp : rxPick c gid = .ok h) :
    gid < chamelioMaxGuests := (rxPick_ok_iff.mp ⟨h, hp⟩).1

/-- The guest whose handler runs is ready. -/
theorem rxPick_ready {gid : Nat} {h : RxHandler} (hk : c.Known)
    (hp : rxPick c gid = .ok (some h)) :
    c.Ready gid ∧
      ((c.ctx.guests gid).hasEvents = true ∨ (c.ctx.guests gid).protoType ≠ chamProtoInvalid) := by
  have hlt := rxPick_lt hp
  unfold rxPick at hp
  rw [if_neg (Nat.not_le.mpr hlt)] at hp
  unfold RxCore.Ready
  split at hp
  · next hc =>
    -- the combined loop asks for `has_event_rx`
    rw [hk.comb hc]
    unfold rxSlot at hp
    dsimp only at hp
    split at hp
    · next he => exact ⟨he.2, .inl he.2⟩
    · cases hp
  · unfold rxSwitch at hp
    cases hm : c.fpProtoMode with
    | ebpf =>
      rw [hm] at hp
      dsimp only at hp
      split at hp
      · next he => exact ⟨he, .inl he⟩
      · cases hp
    | hand =>
      rw [hm] at hp
      dsimp only at hp
      have hset := protoHandEventRx_set (Except.ok.inj hp)
      exact ⟨hset, .inr hset⟩
    | unknown =>
      rw [hm] at hp
      cases hp

/-- The guest of a frame is the one of the table. -/
theorem infraRx_assigns {gid : Nat} (h : infraRx c fr = some gid) (hv : c.virtGre = true) :
    c.innerTable.Assigns fr.greKey fr.innerDst (UInt32.ofNat gid) := by
  unfold infraRx processRxIp at h
  by_cases harp : fr.ethType = Arp.ethTypeArp
  · rw [if_pos harp] at h
    cases h
  · rw [if_neg harp, if_pos hv] at h
    split at h
    · cases h
    · next e he =>
      cases h
      rw [UInt32.ofNat_toNat]
      exact netvirtTableGet_assigns he

/-- What the loop knows of a frame it is through with: a frame that is
dropped is not kept, a handler that ran is that of a ready guest. -/
def RxResult.Sound (c : RxCore) (r : RxResult) : Prop :=
  match r.out with
  | .dropped => r.mbTx = false
  | .ran gid _ =>
    gid < c.ctx.nGuests ∧ (c.ctx.guests gid).id = gid ∧ c.Ready gid ∧
      (c.virtGre = true →
        c.innerTable.Assigns r.frame.greKey r.frame.innerDst (UInt32.ofNat gid))

theorem rxFrame_sound (hk : c.Known) (hf : c.FrameOk fr) (ans : RxAns) :
    ∃ r m', rxFrame c m fr ans = .ok (r, m') ∧ r.frame = fr ∧ r.Sound c := by
  have hf := frameOk_iff.mp hf
  unfold rxFrame
  cases hg : infraRx c fr with
  | none => exact ⟨_, _, rfl, rfl, rfl⟩
  | some gid =>
    obtain ⟨h, hp⟩ := rxPick_ok_iff.mpr (hf gid hg)
    dsimp only
    rw [hp]
    cases h with
    | none => exact ⟨_, _, rfl, rfl, rfl⟩
    | some h =>
      obtain ⟨hready, hset⟩ := rxPick_ready hk hp
      obtain ⟨hid, hn⟩ := hk.guest gid (rxPick_lt hp) hset
      exact ⟨_, _, rfl, rfl, hn, hid, hready, infraRx_assigns hg⟩

theorem rxFrame_fault (hf : ¬ c.FrameOk fr) (ans : RxAns) : ∃ e, rxFrame c m fr ans = .error e := by
  rw [frameOk_iff] at hf
  obtain ⟨gid, hf⟩ := Classical.not_forall.mp hf
  obtain ⟨hg, hf⟩ := Classical.not_imp.mp hf
  unfold rxFrame
  rw [hg]
  dsimp only
  cases hp : rxPick c gid with
  | error e => exact ⟨e, rfl⟩
  | ok h => exact absurd (rxPick_ok_iff.mp ⟨h, hp⟩) hf

/-- The loop, frame by frame. -/
theorem rxLoop_sound (hk : c.Known) (ans : Nat → RxAns) (frs : List RxFrame) (i : Nat) (m : Mbufs)
    (hf : ∀ fr ∈ frs, c.FrameOk fr) :
    ∃ rs m', rxLoop c ans frs i m = .ok (rs, m') ∧ rs.map RxResult.frame = frs ∧
      ∀ r ∈ rs, r.Sound c := by
  induction frs generalizing i m with
  | nil => exact ⟨[], m, rfl, rfl, by simp⟩
  | cons fr frs ih =>
    obtain ⟨r, m₁, hr, hfr, hs⟩ := rxFrame_sound (m := m) hk (hf fr List.mem_cons_self) (ans i)
    obtain ⟨rs, m₂, hrs, hfrs, hss⟩ := ih (i + 1) m₁ fun x hx => hf x (List.mem_cons_of_mem fr hx)
    refine ⟨r :: rs, m₂, ?_, ?_, ?_⟩
    · rw [rxLoop, hr]
      dsimp only
      rw [hrs]
    · rw [List.map_cons, hfr, hfrs]
    · intro x hx
      rcases List.mem_cons.mp hx with rfl | hx
      · exact hs
      · exact hss x hx

theorem rxLoop_fault (ans : Nat → RxAns) (frs : List RxFrame) (i : Nat) (m : Mbufs)
    (hf : ∃ fr ∈ frs, ¬ c.FrameOk fr) : ∃ e, rxLoop c ans frs i m = .error e := by
  induction frs generalizing i m with
  | nil =>
    obtain ⟨fr, hfr, -⟩ := hf
    cases hfr
  | cons fr frs ih =>
    rw [rxLoop]
    cases hr : rxFrame c m fr (ans i) with
    | error e => exact ⟨e, rfl⟩
    | ok p =>
      -- the frame that fails is a later one
      obtain ⟨x, hx, hxf⟩ := hf
      have hx : x ∈ frs := by
        rcases List.mem_cons.mp hx with rfl | hx
        · obtain ⟨e, he⟩ := rxFrame_fault (m := m) hxf (ans i)
          rw [hr] at he
          cases he
        · exact hx
      obtain ⟨e, he⟩ := ih (i + 1) p.2 ⟨x, hx, hxf⟩
      dsimp only
      rw [he]
      exact ⟨e, rfl⟩

theorem rxReuse_keeps {mb : Nat} (rs : List RxResult) (m : Mbufs) (h : m.Returned mb) :
    (rxReuse rs m).Returned mb := by
  induction rs generalizing m with
  | nil => exact h
  | cons r rs ih =>
    rw [rxReuse]
    apply ih
    split
    · exact h
    · exact h.free r.frame.mb

/-- Every mbuf that is not kept is back after the second loop. -/
theorem rxReuse_returned {r : RxResult} (rs : List RxResult) (m : Mbufs) (hr : r ∈ rs)
    (hk : r.mbTx = false) : (rxReuse rs m).Returned r.frame.mb := by
  induction rs generalizing m with
  | nil => cases hr
  | cons r' rs ih =>
    rw [rxReuse]
    rcases List.mem_cons.mp hr with rfl | hr
    · rw [if_neg (by rw [hk]; decide)]
      exact rxReuse_keeps rs _ (txcacheFree_returned m r.frame.mb)
    · exact ih _ hr

/-- A poll of a core that knows its guests does the right thing with its
frames just when each of them is a frame it can take. -/
theorem RxCore.Known.dispatched_iff (hk : c.Known) (nic : List RxFrame) (ans : Nat → RxAns)
    (sent : Nat) :
    RxDispatched c m nic ans sent ↔ ∀ fr ∈ rxTaken c m nic, c.FrameOk fr := by
  unfold RxDispatched fastRxPoll
  constructor
  · rintro ⟨rs, m', hpoll, -, -⟩ fr hfr
    by_cases hf : c.FrameOk fr
    · exact hf
    · exfalso
      obtain ⟨e, he⟩ := rxLoop_fault ans (rxTaken c m nic) 0 m ⟨fr, hfr, hf⟩
      cases ht : rxTaken c m nic with
      | nil =>
        rw [ht] at hfr
        cases hfr
      | cons x xs =>
        rw [ht] at hpoll he
        dsimp only at hpoll
        rw [he] at hpoll
        cases hpoll
  · intro hf
    obtain ⟨rs, m', hl, hfrs, hs⟩ := rxLoop_sound hk ans (rxTaken c m nic) 0 m hf
    cases ht : rxTaken c m nic with
    | nil =>
      exact ⟨[], m, rfl, rfl, by simp⟩
    | cons x xs =>
      rw [ht] at hl hfrs
      refine ⟨rs, _, by dsimp only; rw [hl], hfrs, ?_⟩
      intro r hr
      have hsr := hs r hr
      unfold RxResult.Sound at hsr
      unfold RxResult.Fine
      cases ho : r.out with
      | dropped =>
        rw [ho] at hsr
        exact rxReuse_returned rs _ hr hsr
      | ran gid h =>
        rw [ho] at hsr
        exact hsr

end

/-! ## What a core hears -/

/-- The core of `handle_new_guest` and the other handlers, and of the
functions of the combined loop that come with an upload. -/
def RxCore.handle (c : RxCore) (msg : FastMsg) : RxCore :=
  { c with
    ctx := handleMsg c.ctx msg
    aggFns := match msg with
      | .uploadEbpf _ => c.fpJitCombined || c.aggFns
      | _ => c.aggFns }

/-- The control path and one core. -/
structure RegSys where
  /-- `n_guests` of the control path. -/
  nGuests : Nat
  /-- The guest that is being accepted was announced to this core. -/
  told : Bool
  q : Fifo FastMsg
  core : RxCore
  /-- Announcements the core has counted. -/
  counted : Nat

inductive RegAct
  /-- An accept comes to this core. -/
  | announce (shmLen : Nat)
  /-- An accept is through with the last core. -/
  | count
  /-- The control path passes on a request of a guest. -/
  | request (msg : FastMsg)
  /-- The core handles its next message. -/
  | drain

/-- The guest a request is about. -/
def msgGid : FastMsg → Option Nat
  | .newGuest _ _ => none
  | .newQueue gid _ _ _ _ _ => some gid
  | .newMap gid _ _ _ _ _ => some gid
  | .enableq gid _ _ _ _ _ _ => some gid
  | .disableq gid _ _ => some gid
  | .uploadEbpf gid => some gid
  | .other => none

/-- The requests the control path passes on. `control_ebpf_publish` names the
id behind the last guest. -/
def requestOk (nGuests : Nat) (msg : FastMsg) : Bool :=
  match msg, msgGid msg with
  | .newGuest _ _, _ => false
  | .uploadEbpf gid, _ => gid < nGuests || gid = chamelioMaxGuests
  | _, none => true
  | _, some gid => gid < nGuests

/-- The message is an announcement the core counts. -/
def counts : FastMsg → Bool
  | .newGuest id _ => id < chamelioMaxGuests
  | _ => false

def RegSys.step (s : RegSys) : RegAct → RegSys × Unit
  | .announce shmLen =>
    match s.q.push (.newGuest s.nGuests shmLen) with
    | none => (s, ())
    | some q => ({ s with q, told := true }, ())
  | .count => (if s.told then { s with nGuests := s.nGuests + 1, told := false } else s, ())
  | .request msg =>
    match s.q.push msg with
    | none => (s, ())
    | some q => (if requestOk s.nGuests msg then { s with q } else s, ())
  | .drain =>
    match s.q.head? with
    | none => (s, ())
    | some msg =>
      ({ s with
        q := s.q.pop
        core := s.core.handle msg
        counted := s.counted + if counts msg then 1 else 0 }, ())

/-- The core's counter of guests does not wrap in this step. -/
def RegSys.NoWrap (s : RegSys) : RegAct → Prop
  | .drain =>
    match s.q.head? with
    | none => True
    | some msg => counts msg = true → s.counted < 255
  | _ => True

/-- Nothing has happened yet: the context is zeroed memory. -/
structure RegSys.Init (s : RegSys) : Prop where
  nGuests : s.nGuests = 0
  told : s.told = false
  q : s.q.items = []
  comb : s.core.fpJitCombined = true → s.core.fpProtoMode = .ebpf
  aggFns : s.core.aggFns = false
  count : s.core.ctx.nGuests = 0
  guests : ∀ k, (s.core.ctx.guests k).id = 0 ∧ (s.core.ctx.guests k).hasEvents = false ∧
    (s.core.ctx.guests k).protoType = chamProtoInvalid
  counted : s.counted = 0

/-! ## Announcements come first -/

/-- The core has its guest `k`. -/
def Registered (ctx : FastCtx) (counted k : Nat) : Prop := (ctx.guests k).id = k ∧ k < counted

/-- What a message needs: an announcement the guests before it, a request its
guest. -/
structure MsgFine (ctx : FastCtx) (counted : Nat) (msg : FastMsg) : Prop where
  announce : ∀ id len, msg = .newGuest id len → id < chamelioMaxGuests → id ≤ counted
  request : ∀ gid, msgGid msg = some gid → gid < chamelioMaxGuests → Registered ctx counted gid

/-- Each message finds what it needs when its turn comes. -/
def AllFine (ctx : FastCtx) (counted : Nat) : List FastMsg → Prop
  | [] => True
  | msg :: msgs =>
    MsgFine ctx counted msg ∧
      AllFine (handleMsg ctx msg) (counted + if counts msg then 1 else 0) msgs

/-- Context and count after the messages. -/
def heard (ctx : FastCtx) (counted : Nat) : List FastMsg → FastCtx × Nat
  | [] => (ctx, counted)
  | msg :: msgs => heard (handleMsg ctx msg) (counted + if counts msg then 1 else 0) msgs

theorem allFine_append {msg : FastMsg} (ctx : FastCtx) (counted : Nat) (msgs : List FastMsg)
    (h : AllFine ctx counted msgs)
    (hm : MsgFine (heard ctx counted msgs).1 (heard ctx counted msgs).2 msg) :
    AllFine ctx counted (msgs ++ [msg]) := by
  induction msgs generalizing ctx counted with
  | nil => exact ⟨hm, trivial⟩
  | cons x xs ih => exact ⟨h.1, ih _ _ h.2 hm⟩

theorem heard_append {msg : FastMsg} (ctx : FastCtx) (counted : Nat) (msgs : List FastMsg) :
    heard ctx counted (msgs ++ [msg]) =
      (handleMsg (heard ctx counted msgs).1 msg,
        (heard ctx counted msgs).2 + if counts msg then 1 else 0) := by
  induction msgs generalizing ctx counted with
  | nil => rfl
  | cons x xs ih => exact ih _ _

theorem requestOk_spec {n : Nat} {msg : FastMsg} (h : requestOk n msg = true) :
    (∀ id len, msg ≠ .newGuest id len) ∧
      ∀ gid, msgGid msg = some gid → gid < chamelioMaxGuests → gid < n := by
  cases msg with
  | newGuest => cases h
  | uploadEbpf g =>
    refine ⟨fun _ _ e => (by cases e), fun gid hg hlt => ?_⟩
    cases hg
    rcases (Bool.or_eq_true _ _).mp h with h | h
    · exact of_decide_eq_true h
    · have := of_decide_eq_true h
      omega
  | other => exact ⟨fun _ _ e => (by cases e), fun gid hg => (by cases hg)⟩
  | newQueue | newMap | enableq | disableq =>
    refine ⟨fun _ _ e => (by cases e), fun gid hg _ => ?_⟩
    cases hg
    exact of_decide_eq_true h

/-- **What a message does to a core**: nothing; it registers a guest and counts
it; or it writes the guest it is about, who keeps his id. -/
theorem handleMsg_inv (ctx : FastCtx) (msg : FastMsg) :
    (handleMsg ctx msg = ctx ∧ counts msg = false) ∨
    (∃ id len g, msg = .newGuest id len ∧ id < chamelioMaxGuests ∧ g.id = id ∧
      g.hasEvents = false ∧ g.protoType = chamProtoInvalid ∧
      handleMsg ctx msg = { ctx.setGuest id g with nGuests := (ctx.nGuests + 1) % 256 }) ∨
    (counts msg = false ∧ ∃ gid g, msgGid msg = some gid ∧ g.id = (ctx.guests gid).id ∧
      handleMsg ctx msg = ctx.setGuest gid g) := by
  cases msg with
  | newGuest id len =>
    by_cases h : chamelioMaxGuests ≤ id
    · exact .inl ⟨if_pos h, decide_eq_false (Nat.not_lt.mpr h)⟩
    · refine .inr (.inl ⟨id, len, _, rfl, Nat.not_le.mp h, ?_, ?_, ?_, if_neg h⟩) <;> rfl
  | newQueue gid =>
    refine .inr (.inr ⟨rfl, gid, _, rfl, ?_, rfl⟩)
    rfl
  | newMap gid =>
    refine .inr (.inr ⟨rfl, gid, _, rfl, ?_, rfl⟩)
    rfl
  | enableq gid pt qid off n e core =>
    refine .inr (.inr ⟨rfl, gid, _, rfl, ?_, rfl⟩)
    dsimp only
    split <;> rfl
  | disableq gid qid core =>
    refine .inr (.inr ⟨rfl, gid, _, rfl, ?_, rfl⟩)
    simp only [GuestFast.setDqueue, apply_ite GuestFast.id, ite_self]
  | uploadEbpf gid =>
    by_cases h : gid < chamelioMaxGuests
    · refine .inr (.inr ⟨rfl, gid, _, rfl, ?_, if_pos h⟩)
      rfl
    · exact .inl ⟨if_neg h, rfl⟩
  | other => exact .inl ⟨rfl, rfl⟩

theorem counts_newGuest {id len : Nat} (h : id < chamelioMaxGuests) :
    counts (.newGuest id len) = true := decide_eq_true h

/-- A guest that is registered stays so. -/
theorem Registered.handle {ctx : FastCtx} {counted k : Nat} (h : Registered ctx counted k)
    (msg : FastMsg) :
    Registered (handleMsg ctx msg) (counted + if counts msg then 1 else 0) k := by
  refine ⟨?_, Nat.lt_of_lt_of_le h.2 (Nat.le_add_right _ _)⟩
  rcases handleMsg_inv ctx msg with ⟨he, -⟩ | ⟨id, len, g, -, -, hid, -, -, he⟩ |
    ⟨-, gid, g, -, hid, he⟩
  · rw [he]
    exact h.1
  · rw [he]
    show ((ctx.setGuest id g).guests k).id = k
    by_cases hk : k = id
    · rw [hk, FastCtx.setGuest_same, hid]
    · rw [FastCtx.setGuest_ne g hk]
      exact h.1
  · rw [he]
    by_cases hk : k = gid
    · rw [hk, FastCtx.setGuest_same, hid, ← hk]
      exact h.1
    · rw [FastCtx.setGuest_ne g hk]
      exact h.1

/-- The invariant of the core and its queue. -/
structure RegInv (s : RegSys) : Prop where
  comb : s.core.fpJitCombined = true → s.core.fpProtoMode = .ebpf
  count : s.core.ctx.nGuests = s.counted % 256
  small : s.counted ≤ 255
  /-- Who has a program or a protocol is registered. -/
  guest : ∀ k, k < chamelioMaxGuests →
    (s.core.ctx.guests k).hasEvents = true ∨
      (s.core.ctx.guests k).protoType ≠ chamProtoInvalid →
    Registered s.core.ctx s.counted k
  fine : AllFine s.core.ctx s.counted s.q.items
  /-- With its queue empty the core has every guest of the control path. -/
  reg : ∀ k, k < s.nGuests → k < chamelioMaxGuests →
    Registered (heard s.core.ctx s.counted s.q.items).1 (heard s.core.ctx s.counted s.q.items).2 k
  told : s.told = true → s.nGuests < chamelioMaxGuests →
    Registered (heard s.core.ctx s.counted s.q.items).1 (heard s.core.ctx s.counted s.q.items).2
      s.nGuests

theorem RegInv.known {s : RegSys} (h : RegInv s) : s.core.Known := by
  refine ⟨h.comb, fun k hk hset => ?_⟩
  obtain ⟨hid, hlt⟩ := h.guest k hk hset
  have hsmall := h.small
  refine ⟨hid, ?_⟩
  rw [h.count]
  omega

theorem RegInv.init {s : RegSys} (h : s.Init) : RegInv s where
  comb := h.comb
  count := by rw [h.count, h.counted]
  small := by rw [h.counted]; omega
  guest k _ hset := by
    obtain ⟨-, he, hp⟩ := h.guests k
    rw [he, hp] at hset
    rcases hset with hset | hset
    · cases hset
    · exact absurd rfl hset
  fine := by rw [h.q]; trivial
  reg k hk := by rw [h.nGuests] at hk; omega
  told ht := by rw [h.told] at ht; cases ht

/-- Pushing a message that will find what it needs. -/
theorem RegInv.push {s : RegSys} {q : Fifo FastMsg} {msg : FastMsg} (h : RegInv s)
    (hq : s.q.push msg = some q)
    (hm : MsgFine (heard s.core.ctx s.counted s.q.items).1
      (heard s.core.ctx s.counted s.q.items).2 msg) : RegInv { s with q } := by
  have hitems : q.items = s.q.items ++ [msg] := Fifo.push_items hq
  have hheard : heard s.core.ctx s.counted q.items = _ :=
    (congrArg (heard s.core.ctx s.counted) hitems).trans (heard_append _ _ _)
  refine ⟨h.comb, h.count, h.small, h.guest, ?_, ?_, ?_⟩
  · show AllFine s.core.ctx s.counted q.items
    rw [hitems]
    exact allFine_append _ _ _ h.fine hm
  · intro k hk hlt
    show Registered (heard s.core.ctx s.counted q.items).1 (heard s.core.ctx s.counted q.items).2 k
    rw [hheard]
    exact (h.reg k hk hlt).handle msg
  · intro ht hlt
    show Registered (heard s.core.ctx s.counted q.items).1 (heard s.core.ctx s.counted q.items).2 _
    rw [hheard]
    exact (h.told ht hlt).handle msg

theorem RegInv.announce {s : RegSys} (h : RegInv s) (shmLen : Nat) :
    RegInv (s.step (.announce shmLen)).1 := by
  unfold RegSys.step
  dsimp only
  cases hq : s.q.push (.newGuest s.nGuests shmLen) with
  | none => exact h
  | some q =>
    have hm : MsgFine (heard s.core.ctx s.counted s.q.items).1
        (heard s.core.ctx s.counted s.q.items).2 (.newGuest s.nGuests shmLen) := by
      refine ⟨fun id len e hlt => ?_, fun gid hg => by cases hg⟩
      cases e
      cases hn : s.nGuests with
      | zero => exact Nat.zero_le _
      | succ n =>
        -- the guest before it is registered, and counted
        exact (h.reg n (by omega) (by omega)).2
    have hpush := h.push hq hm
    refine ⟨hpush.comb, hpush.count, hpush.small, hpush.guest, hpush.fine, hpush.reg, ?_⟩
    intro _ hlt
    have hlt : s.nGuests < chamelioMaxGuests := hlt
    show Registered (heard s.core.ctx s.counted q.items).1 (heard s.core.ctx s.counted q.items).2
      s.nGuests
    rw [Fifo.push_items hq, heard_append, counts_newGuest hlt, if_pos rfl]
    have hle := hm.announce s.nGuests shmLen rfl hlt
    refine ⟨?_, Nat.lt_succ_of_le hle⟩
    rcases handleMsg_inv (heard s.core.ctx s.counted s.q.items).1
      (.newGuest s.nGuests shmLen) with ⟨-, hc⟩ | ⟨id, len, g, e, -, hid, -, -, he⟩ | ⟨hc, -⟩
    · rw [counts_newGuest hlt] at hc
      cases hc
    · cases e
      dsimp only
      rw [he]
      show ((FastCtx.setGuest _ _ g).guests _).id = _
      rw [FastCtx.setGuest_same, hid]
    · rw [counts_newGuest hlt] at hc
      cases hc

theorem RegInv.counted {s : RegSys} (h : RegInv s) : RegInv (s.step .count).1 := by
  unfold RegSys.step
  dsimp only
  split
  · next ht =>
    refine ⟨h.comb, h.count, h.small, h.guest, h.fine, ?_, fun e => by cases e⟩
    intro k hk hlt
    have hk : k < s.nGuests + 1 := hk
    by_cases hlast : k = s.nGuests
    · rw [hlast]
      exact h.told ht (hlast ▸ hlt)
    · exact h.reg k (by omega) hlt
  · exact h

theorem RegInv.request {s : RegSys} (h : RegInv s) (msg : FastMsg) :
    RegInv (s.step (.request msg)).1 := by
  unfold RegSys.step
  dsimp only
  cases hq : s.q.push msg with
  | none => exact h
  | some q =>
    dsimp only
    split
    · next hok =>
      obtain ⟨hnew, hgid⟩ := requestOk_spec hok
      exact h.push hq ⟨fun id len e => absurd e (hnew id len),
        fun gid hg hlt => h.reg gid (hgid gid hg hlt) hlt⟩
    · exact h

theorem RegInv.drain {s : RegSys} (h : RegInv s) (hw : s.NoWrap .drain) :
    RegInv (s.step .drain).1 := by
  unfold RegSys.step
  unfold RegSys.NoWrap at hw
  dsimp only at hw ⊢
  cases hq : s.q.head? with
  | none => exact h
  | some msg =>
    rw [hq] at hw
    have hitems := Fifo.head_cons hq
    have hfine := h.fine
    have hreg := h.reg
    have htold := h.told
    rw [hitems] at hfine hreg htold
    refine ⟨h.comb, ?_, ?_, ?_, hfine.2, hreg, htold⟩
    · show (handleMsg s.core.ctx msg).nGuests = (s.counted + if counts msg then 1 else 0) % 256
      have hc := h.count
      rcases handleMsg_inv s.core.ctx msg with ⟨he, hn⟩ | ⟨id, len, g, hmsg, hlt, -, -, -, he⟩ |
        ⟨hn, gid, g, -, -, he⟩
      · rw [he, hn, hc]
        rfl
      · rw [he, hmsg, counts_newGuest hlt]
        show (s.core.ctx.nGuests + 1) % 256 = (s.counted + 1) % 256
        omega
      · rw [he, hn]
        exact hc
    · show s.counted + (if counts msg then 1 else 0) ≤ 255
      have hs := h.small
      cases hc : counts msg with
      | true =>
        have := hw hc
        show s.counted + 1 ≤ 255
        omega
      | false => exact hs
    · intro k hk hset
      have hset : ((handleMsg s.core.ctx msg).guests k).hasEvents = true ∨
          ((handleMsg s.core.ctx msg).guests k).protoType ≠ chamProtoInvalid := hset
      suffices hreg' : Registered s.core.ctx s.counted k from hreg'.handle msg
      rcases handleMsg_inv s.core.ctx msg with ⟨he, -⟩ | ⟨id, len, g, -, -, -, hev, hpt, he⟩ |
        ⟨-, gid, g, hgid, -, he⟩
      · rw [he] at hset
        exact h.guest k hk hset
      · -- a guest that is registered anew has neither
        rw [he] at hset
        have hset : (((s.core.ctx.setGuest id g)).guests k).hasEvents = true ∨
          (((s.core.ctx.setGuest id g)).guests k).protoType ≠ chamProtoInvalid := hset
        by_cases hki : k = id
        · rw [hki, FastCtx.setGuest_same, hev, hpt] at hset
          rcases hset with hset | hset
          · cases hset
          · exact absurd rfl hset
        · rw [FastCtx.setGuest_ne g hki] at hset
          exact h.guest k hk hset
      · by_cases hki : k = gid
        · exact hfine.1.request k (hki ▸ hgid) hk
        · rw [he, FastCtx.setGuest_ne g hki] at hset
          exact h.guest k hk hset

theorem RegInv.step {s : RegSys} {a : RegAct} (h : RegInv s) (hw : s.NoWrap a) :
    RegInv (s.step a).1 := by
  cases a with
  | announce shmLen => exact h.announce shmLen
  | count => exact h.counted
  | request msg => exact h.request msg
  | drain => exact h.drain hw

/-- **Frames go to guests that are ready**: in every run in which the counter
of the core does not wrap, whatever order announcements, requests and frames
came in, a poll does the right thing with the frames it takes just when each
is an ARP packet, or for no guest of the table, or for a guest inside the
array whose program the eBPF loop finds. -/
theorem rx_dispatch {s₀ s : RegSys} {log : List Unit} (h₀ : s₀.Init)
    (hr : Run RegSys.NoWrap RegSys.step s₀ log s) (m : Mbufs) (nic : List RxFrame)
    (ans : Nat → RxAns) (sent : Nat) :
    RxDispatched s.core m nic ans sent ↔ ∀ fr ∈ rxTaken s.core m nic, s.core.FrameOk fr := by
  have hinv : RegInv s := by
    refine Run.inv (I := fun _ s => RegInv s) (RegInv.init h₀) ?_ hr
    intro log s a hi hw
    exact hi.step hw
  exact hinv.known.dispatched_iff nic ans sent

/-- The inner table with guest 0 under key 7 and address 9. -/
def oneGuestTable : NetvirtTable :=
  (netvirtTableSet netvirtTableInit ⟨7, 9, 0, 7, 9, 3⟩).getD netvirtTableInit

/-- A core with the eBPF loop that has heard nothing yet. -/
def freshReg (virtGre : Bool) : RegSys where
  nGuests := 0
  told := false
  q := ⟨[], 8⟩
  core :=
    { fpProtoMode := .ebpf, fpJitCombined := false, virtGre, innerTable := oneGuestTable
      aggFns := false
      ctx :=
        { guests := fun _ =>
            { id := 0, shmLen := 0, protoType := chamProtoInvalid, ndqueues := 0, dqueuesHead := 0
              dqueuesTail := 0, dqueues := fun _ => ⟨0, 0, 0, 0, 0, 0, 0⟩
              equeues := fun _ => ⟨0, 0, 0, 0, 0⟩, hasEvents := false, nmaps := 0
              maps := fun _ => ⟨0, 0, 0, 0, 0⟩ }
          nGuests := 0 } }
  counted := 0

theorem freshReg_init (virtGre : Bool) : (freshReg virtGre).Init :=
  ⟨rfl, rfl, rfl, fun h => (by cases h), rfl, rfl, fun _ => ⟨rfl, rfl, rfl⟩, rfl⟩

/-- The mbufs of a core with an empty cache. -/
def noMbufs : Mbufs := ⟨⟨fun _ => 0, 0, 0, txCacheSize_pos, Nat.zero_le _⟩, [], []⟩

/-- An IP frame under GRE key 7 for inner address 9. -/
def greFrame : RxFrame where
  mb := 5
  bytes i := if i = 12 then 8 else if i = 41 then 7 else if i = 61 then 9 else 0

/-- The guest is accepted, and the core hears of it. -/
def acceptOne : List RegAct := [.announce 4096, .count, .drain]

/-- Then its program comes. -/
def uploadOne : List RegAct := acceptOne ++ [.request (.uploadEbpf 0), .drain]

instance (s : RegSys) : (a : RegAct) → Decidable (s.NoWrap a)
  | .announce _ => .isTrue trivial
  | .count => .isTrue trivial
  | .request _ => .isTrue trivial
  | .drain =>
    match h : s.q.head? with
    | none => .isTrue (by simp [RegSys.NoWrap, h])
    | some msg =>
      decidable_of_iff (counts msg = true → s.counted < 255) (by simp [RegSys.NoWrap, h])

theorem rx_dispatch_uploaded :
    RxDispatched (execAll RegSys.step uploadOne (freshReg true)).2.core noMbufs [greFrame]
      (fun _ => ⟨0, .err⟩) 0 := by
  refine (rx_dispatch (freshReg_init true)
    (Run.execOk uploadOne Run.nil (by decide)) noMbufs [greFrame]
    (fun _ => ⟨0, .err⟩) 0).mpr ?_
  intro fr hfr
  have hfr : fr ∈ [greFrame] := hfr
  rw [List.mem_singleton.mp hfr]
  intro _
  exact ⟨by decide, fun _ _ => by decide⟩

/-- Registered and without a program: the first frame makes the eBPF loop call
a machine that is not there. -/
theorem rx_dispatch_no_program :
    Run (fun _ _ => True) RegSys.step (freshReg false) (execAll RegSys.step acceptOne
        (freshReg false)).1 (execAll RegSys.step acceptOne (freshReg false)).2 ∧
      fastRxPoll (execAll RegSys.step acceptOne (freshReg false)).2.core noMbufs [greFrame]
        (fun _ => ⟨0, .err⟩) 0 = .error (.nullVm 0) ∧
      ¬ RxDispatched (execAll RegSys.step acceptOne (freshReg false)).2.core noMbufs [greFrame]
        (fun _ => ⟨0, .err⟩) 0 := by
  have hpoll : fastRxPoll (execAll RegSys.step acceptOne (freshReg false)).2.core noMbufs [greFrame]
      (fun _ => ⟨0, .err⟩) 0 = .error (.nullVm 0) := by rfl
  refine ⟨Run.execAll acceptOne Run.nil, hpoll, ?_⟩
  rintro ⟨rs, m', h, -⟩
  rw [hpoll] at h
  cases h

end Chamelio.Fast
