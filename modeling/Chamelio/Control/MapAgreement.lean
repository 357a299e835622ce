import Chamelio.Control.GuestSpec

/-!
# Agreement on a guest's maps

The control path numbers a guest's maps with its own counter and reports the
number to the guest; a core appends each map it is told of behind its own
counter and never looks at the number in the message. The two agree because
the messages of a core arrive in order. `control_guest_new_proto` resets the
control path's counter and tells no core, so a second registration of a
guest that already has maps separates them.
-/

namespace Chamelio.Control

open Chamelio.Lib Chamelio.Util Chamelio.Fast

/-- Core `i` once it has handled the messages now in its queue. -/
def Sys.drained (s : Sys) (i : Nat) : FastCtx :=
  (s.ctx.ctlFastQs i).items.foldl handleMsg (s.cores i)

/-- The control path, the guest and every core agree on the maps of guest
`gi` once the messages in flight are handled. -/
structure MapsAgree (gi : Nat) (s : Sys) : Prop where
  count : ∀ i, i < s.ctx.config.fpCoresMax →
    ((s.drained i).guests (s.ctx.guests gi).id).nmaps = (s.ctx.guests gi).proto.nmaps
  max : (s.ctx.guests gi).proto.nmaps ≤ maxProtoMaps
  reported : ∀ i, i < s.ctx.config.fpCoresMax → ∀ k, k < (s.ctx.guests gi).proto.nmaps →
    ∃ m, (s.reported gi)[k]? = some m ∧ m.id = k ∧
      ((s.drained i).guests (s.ctx.guests gi).id).maps k = m

/-- The step does not register guest `gi` again while it has maps. -/
def NoReset (gi : Nat) (s : Sys) (a : Act) : Prop :=
  ∀ t d, s.handles a = some (gi, t, d) → QueueType.ofByte? t = some .newProtoReq →
    newProtoAccepted s.ctx d = true → (s.ctx.guests gi).proto.nmaps = 0

/-! ## What a message does to the maps of a guest -/

/-- The message is a map or a registration of the guest `gid`. -/
def touchesMaps (gid : Nat) : FastMsg → Prop
  | .newMap g _ _ _ _ _ => g = gid
  | .newGuest g _ => g = gid
  | _ => False

/-- The same maps for the guest `gid`. -/
structure SameMaps (gid : Nat) (c c' : FastCtx) : Prop where
  nmaps : (c'.guests gid).nmaps = (c.guests gid).nmaps
  maps : (c'.guests gid).maps = (c.guests gid).maps

theorem SameMaps.refl (gid : Nat) (c : FastCtx) : SameMaps gid c c := ⟨rfl, rfl⟩

theorem SameMaps.trans {gid : Nat} {c c' c'' : FastCtx} (h : SameMaps gid c c')
    (h' : SameMaps gid c' c'') : SameMaps gid c c'' :=
  ⟨h'.nmaps.trans h.nmaps, h'.maps.trans h.maps⟩

/-- Writing a guest record with the maps of the one it replaces. -/
theorem setGuest_sameMaps {c : FastCtx} {gid i : Nat} {g : GuestFast}
    (hn : g.nmaps = (c.guests i).nmaps) (hm : g.maps = (c.guests i).maps) :
    SameMaps gid c (c.setGuest i g) := by
  by_cases h : gid = i
  · subst h
    exact ⟨by rw [FastCtx.setGuest_same, hn], by rw [FastCtx.setGuest_same, hm]⟩
  · exact ⟨by rw [FastCtx.setGuest_ne g h], by rw [FastCtx.setGuest_ne g h]⟩

theorem handleEnableq_sameMaps (c : FastCtx) (gid g pt qid off n e : Nat) :
    SameMaps gid c (handleEnableq c g pt qid off n e) := by
  unfold handleEnableq
  dsimp only
  apply setGuest_sameMaps
  · dsimp only
    split <;> rfl
  · dsimp only
    split <;> rfl

theorem handleDisableq_sameMaps (c : FastCtx) (gid g qid : Nat) :
    SameMaps gid c (handleDisableq c g qid) := by
  unfold handleDisableq
  dsimp only
  apply setGuest_sameMaps
  · simp only [GuestFast.setDqueue, apply_ite GuestFast.nmaps, ite_self]
  · simp only [GuestFast.setDqueue, apply_ite GuestFast.maps, ite_self]

/-- A message that is no map and no registration of the guest leaves its
maps alone. -/
theorem handleMsg_sameMaps {gid : Nat} {m : FastMsg} (h : ¬ touchesMaps gid m) (c : FastCtx) :
    SameMaps gid c (handleMsg c m) := by
  cases m with
  | newGuest g len =>
    show SameMaps gid c (handleNewGuest c g len)
    unfold handleNewGuest
    split
    · exact SameMaps.refl gid c
    · have hne : gid ≠ g := fun e => h e.symm
      have hsame : ∀ g' : GuestFast, (c.setGuest g g').guests gid = c.guests gid :=
        fun g' => FastCtx.setGuest_ne g' hne
      exact ⟨congrArg GuestFast.nmaps (hsame _), congrArg GuestFast.maps (hsame _)⟩
  | newQueue => exact setGuest_sameMaps rfl rfl
  | newMap g pt mid n e off =>
    have hne : gid ≠ g := fun e => h e.symm
    exact ⟨by rw [handleMsg, handleNewMap, FastCtx.setGuest_ne _ hne],
      by rw [handleMsg, handleNewMap, FastCtx.setGuest_ne _ hne]⟩
  | enableq g pt qid off n e core => exact handleEnableq_sameMaps c gid g pt qid off n e
  | disableq g qid core => exact handleDisableq_sameMaps c gid g qid
  | uploadEbpf g =>
    show SameMaps gid c (handleUploadEbpf c g)
    unfold handleUploadEbpf
    split
    · exact setGuest_sameMaps rfl rfl
    · exact SameMaps.refl gid c
  | other => exact SameMaps.refl gid c

theorem foldl_sameMaps {gid : Nat} {ms : List FastMsg} (h : ∀ m ∈ ms, ¬ touchesMaps gid m)
    (c : FastCtx) : SameMaps gid c (ms.foldl handleMsg c) := by
  induction ms generalizing c with
  | nil => exact SameMaps.refl gid c
  | cons m ms ih =>
    rw [List.foldl_cons]
    have h₁ := handleMsg_sameMaps (h m List.mem_cons_self) c
    exact h₁.trans (ih (fun m' hm' => h m' (List.mem_cons_of_mem _ hm')) _)

/-- The messages an entry sends touch only the maps of its own guest. -/
theorem Effect.touches {ctx : ControlCtx} {g : GuestControl} {t : UInt8} {d : Nat → UInt8}
    {ms : Nat → List FastMsg} {p : ProtoControl} {al : ShmAllocator}
    (h : Effect ctx g t d ms p al) {gid i : Nat} {m : FastMsg} (hm : m ∈ ms i)
    (ht : touchesMaps gid m) :
    g.id = gid ∧ QueueType.ofByte? t = some .newMapReq ∧ mapGrant ctx g d ≠ none := by
  cases h with
  | nothing | proto | queueRefused | ebpfAllocate | ebpfFree => cases hm
  | queue | enable | disable =>
    dsimp only at hm
    split at hm
    · rw [List.mem_singleton.mp hm] at ht
      exact ht.elim
    · cases hm
  | map hty hg =>
    dsimp only at hm
    split at hm
    · rw [List.mem_singleton.mp hm] at ht
      exact ⟨ht, hty, by rw [hg]; exact Option.some_ne_none _⟩
    · cases hm
  | upload _ hms =>
    rw [hms i m hm] at ht
    exact ht.elim

/-! ## The invariant -/

structure MapInv (gi : Nat) (s : Sys) : Prop where
  ids : ∀ j, j ≠ gi → (s.ctx.guests j).id ≠ (s.ctx.guests gi).id
  count : (s.ctx.guests gi).proto.nmaps = (s.reported gi).length
  max : (s.ctx.guests gi).proto.nmaps ≤ maxProtoMaps
  numbered : ∀ k (m : ChamMap), (s.reported gi)[k]? = some m → m.id = k
  core : ∀ i, i < s.ctx.config.fpCoresMax →
    ((s.drained i).guests (s.ctx.guests gi).id).nmaps = (s.reported gi).length ∧
    ∀ k m, (s.reported gi)[k]? = some m →
      ((s.drained i).guests (s.ctx.guests gi).id).maps k = m

theorem MapInv.agree {gi : Nat} {s : Sys} (h : MapInv gi s) : MapsAgree gi s := by
  refine ⟨fun i hi => by rw [(h.core i hi).1, h.count], h.max, fun i hi k hk => ?_⟩
  rw [h.count] at hk
  have hget := List.getElem?_eq_getElem hk
  exact ⟨_, hget, h.numbered k _ hget, (h.core i hi).2 k _ hget⟩

/-- Steps after which the guest, its reported maps and its maps on the
drained cores are the same. -/
theorem MapInv.frame {gi : Nat} {s s' : Sys} (h : MapInv gi s)
    (hc : s'.ctx.config = s.ctx.config)
    (hid : ∀ j, (s'.ctx.guests j).id = (s.ctx.guests j).id)
    (hp : (s'.ctx.guests gi).proto.nmaps = (s.ctx.guests gi).proto.nmaps)
    (hr : s'.reported gi = s.reported gi)
    (hcore : ∀ i, i < s.ctx.config.fpCoresMax →
      SameMaps (s.ctx.guests gi).id (s.drained i) (s'.drained i)) :
    MapInv gi s' := by
  refine ⟨fun j hj => by rw [hid, hid]; exact h.ids j hj, by rw [hp, hr]; exact h.count,
    by rw [hp]; exact h.max, by rw [hr]; exact h.numbered, fun i hi => ?_⟩
  rw [hc] at hi
  rw [hid, hr, (hcore i hi).nmaps, (hcore i hi).maps]
  exact h.core i hi

theorem drained_append {s s' : Sys} {i : Nat} {ms : List FastMsg} (hcores : s'.cores = s.cores)
    (hq : (s'.ctx.ctlFastQs i).items = (s.ctx.ctlFastQs i).items ++ ms) :
    s'.drained i = ms.foldl handleMsg (s.drained i) := by
  unfold Sys.drained
  rw [hq, hcores, List.foldl_append]

/-- An entry that sends the guest's cores no map and keeps its counter. -/
theorem MapInv.quietEntry {gi gj : Nat} {s s' : Sys} {t : UInt8} {d : Nat → UInt8}
    {ms : Nat → List FastMsg} (h : MapInv gi s) (hh : Handles s s' gj t d ms)
    (hp : (s'.ctx.guests gi).proto.nmaps = (s.ctx.guests gi).proto.nmaps)
    (hr : s'.reported gi = s.reported gi)
    (hms : ∀ i, ∀ m ∈ ms i, ¬ touchesMaps (s.ctx.guests gi).id m) : MapInv gi s' := by
  refine h.frame hh.config (fun j => ?_) hp hr fun i _ => ?_
  · by_cases hjj : j = gj
    · rw [hjj, hh.id]
    · exact (hh.guest j hjj).id
  · rw [drained_append hh.cores (hh.queue i)]
    exact foldl_sameMaps (hms i) _

/-- A granted map goes to the same index everywhere. -/
theorem MapInv.mapEntry {gi : Nat} {s s' : Sys} {t : UInt8} {d : Nat → UInt8}
    {ms : Nat → List FastMsg} (h : MapInv gi s) (hh : Handles s s' gi t d ms)
    (ht : QueueType.ofByte? t = some .newMapReq) {alloc : ShmAllocator} {sh : Region}
    (hg : mapGrant s.ctx (s.ctx.guests gi) d = some (alloc, sh))
    (hp : (s'.ctx.guests gi).proto.nmaps = ((s.ctx.guests gi).proto.nmaps + 1) % 65536)
    (hms : ∀ i, i < s.ctx.config.fpCoresMax →
      ms i = [newMapMsg (s.ctx.guests gi) (s.ctx.guests gi).proto.nmaps d sh]) :
    MapInv gi s' := by
  have hlt : (s.ctx.guests gi).proto.nmaps < maxProtoMaps := by
    unfold mapGrant at hg
    split at hg
    · cases hg
    · omega
  have hsmall : (s.ctx.guests gi).proto.nmaps < 8 := hlt
  have hrep : s'.reported gi = s.reported gi ++ [grantedMap (s.ctx.guests gi) d sh] := by
    rw [hh.reported gi, if_pos ⟨rfl, ht⟩, hg]
    rfl
  have hlen : (s'.reported gi).length = (s.reported gi).length + 1 := by
    rw [hrep, List.length_append, List.length_singleton]
  -- the new map is the last of the reported ones
  have hget : ∀ k m, (s'.reported gi)[k]? = some m →
      (s.reported gi)[k]? = some m ∨
        k = (s.reported gi).length ∧ m = grantedMap (s.ctx.guests gi) d sh := by
    intro k m hk
    rw [hrep] at hk
    by_cases hkl : k < (s.reported gi).length
    · rw [List.getElem?_append_left hkl] at hk
      exact Or.inl hk
    · have hk' := (List.getElem?_eq_some_iff.mp hk).1
      rw [List.length_append, List.length_singleton] at hk'
      obtain rfl : k = (s.reported gi).length := by omega
      rw [List.getElem?_concat_length] at hk
      exact Or.inr ⟨rfl, (Option.some.inj hk).symm⟩
  refine ⟨fun j hj => ?_, ?_, ?_, ?_, ?_⟩
  · rw [(hh.guest j hj).id, hh.id]
    exact h.ids j hj
  · rw [hp, hlen, ← h.count]
    omega
  · rw [hp]
    omega
  · intro k m hk
    rcases hget k m hk with hk | ⟨rfl, rfl⟩
    · exact h.numbered k m hk
    · show (s.ctx.guests gi).proto.nmaps % 65536 = _
      rw [← h.count]
      omega
  · intro i hi
    rw [hh.config] at hi
    obtain ⟨hn, hmaps⟩ := h.core i hi
    have hdr : s'.drained i = handleMsg (s.drained i)
        (newMapMsg (s.ctx.guests gi) (s.ctx.guests gi).proto.nmaps d sh) := by
      rw [drained_append hh.cores (hh.queue i), hms i hi]
      rfl
    have hcount := h.count
    rw [hh.id, hdr]
    simp only [handleMsg, newMapMsg, handleNewMap, FastCtx.setGuest_same]
    refine ⟨by rw [hn, hlen]; omega, fun k m hk => ?_⟩
    rcases hget k m hk with hk | ⟨rfl, rfl⟩
    · have hkl := (List.getElem?_eq_some_iff.mp hk).1
      rw [hn, if_neg (by omega)]
      exact hmaps k m hk
    · rw [hn, if_pos rfl]
      unfold grantedMap
      rw [Nat.mod_eq_of_lt (show (s.ctx.guests gi).proto.nmaps < 65536 by omega)]

/-- An entry of the guest itself. -/
theorem MapInv.handle {gi : Nat} {s s' : Sys} {t : UInt8} {d : Nat → UInt8}
    {ms : Nat → List FastMsg} (h : MapInv gi s) (hh : Handles s s' gi t d ms)
    (hok : QueueType.ofByte? t = some .newProtoReq → newProtoAccepted s.ctx d = true →
      (s.ctx.guests gi).proto.nmaps = 0) : MapInv gi s' := by
  have heff := hh.effect
  by_cases hg : QueueType.ofByte? t = some .newMapReq ∧
      mapGrant s.ctx (s.ctx.guests gi) d ≠ none
  · obtain ⟨ht, hg⟩ := hg
    obtain ⟨r, hr⟩ := Option.ne_none_iff_exists'.mp hg
    obtain ⟨alloc, sh⟩ := r
    generalize hpe : (s'.ctx.guests gi).proto = p at heff
    generalize (s'.ctx.guests gi).alloc = al at heff
    cases heff with
    | @map _ _ sh' hg' =>
      rw [hr] at hg'
      obtain ⟨rfl, rfl⟩ : alloc = al ∧ sh = sh' := by simpa using hg'
      refine h.mapEntry hh ht hr (by rw [hpe]) fun i hi => ?_
      rw [if_pos hi]
    | nothing _ hm => exact absurd (hm ht) hg
    | proto ht' | queue ht' | queueRefused ht' | enable ht' | disable ht' | ebpfAllocate ht'
    | ebpfFree ht' | upload ht' => rw [ht] at ht'; cases ht'
  · have hrep : s'.reported gi = s.reported gi := by
      rw [hh.reported gi]
      split
      · next hc =>
        have hnone : mapGrant s.ctx (s.ctx.guests gi) d = none := by
          apply Classical.byContradiction
          intro hne
          exact hg ⟨hc.2, hne⟩
        rw [hnone]
        exact List.append_nil _
      · rfl
    refine h.quietEntry hh ?_ hrep fun i m hm htm => hg (heff.touches hm htm).2
    generalize (s'.ctx.guests gi).proto = p at heff ⊢
    generalize (s'.ctx.guests gi).alloc = al at heff
    cases heff with
    | nothing | queue | queueRefused | enable | disable | ebpfAllocate | ebpfFree | upload => rfl
    | proto ht ha => exact (hok ht ha).symm
    | map ht hg' => exact absurd ⟨ht, by rw [hg']; exact Option.some_ne_none _⟩ hg

theorem MapInv.step {gi : Nat} {s : Sys} {a : Act} (h : MapInv gi s)
    (hok : NoReset gi s a) : MapInv gi (s.step a).1 := by
  rcases s.step_cases a with hq | ⟨i, m, hd⟩ | ⟨i, ho⟩ | ⟨gj, t, d, ms, he, hh⟩
  · refine h.frame hq.config (fun j => (hq.guest j).id) (by rw [(hq.guest gi).proto])
      (by rw [hq.reported]) fun i _ => ?_
    unfold Sys.drained
    rw [hq.queue, hq.cores]
    exact SameMaps.refl _ _
  · -- handling a message now or later gives the same drained core
    refine h.frame hd.config (fun j => (hd.guest j).id) (by rw [(hd.guest gi).proto])
      (by rw [hd.reported]) fun j _ => ?_
    have hsame : (s.step a).1.drained j = s.drained j := by
      unfold Sys.drained
      by_cases hj : j = i
      · rw [hj, hd.head, hd.core, List.foldl_cons]
      · rw [hd.queue j hj, hd.cores j hj]
    rw [hsame]
    exact SameMaps.refl _ _
  · refine h.frame ho.config (fun j => (ho.guest j).id) (by rw [(ho.guest gi).proto])
      (by rw [ho.reported]) fun j _ => ?_
    rw [drained_append ho.cores (ho.queue j)]
    refine foldl_sameMaps (fun m hm => ?_) _
    split at hm
    · rw [List.mem_singleton.mp hm]
      exact fun hf => hf
    · cases hm
  · by_cases hj : gj = gi
    · subst hj
      exact h.handle hh (hok t d he)
    · refine h.quietEntry hh (by rw [(hh.guest gi (Ne.symm hj)).proto]) ?_ fun i m hm htm => ?_
      · rw [hh.reported gi, if_neg (fun hc => hj hc.1.symm)]
      · exact h.ids gj hj (hh.effect.touches hm htm).1

/-! ## Agreement -/

/-- A second registration of a guest with maps separates the control path
from every core. -/
theorem reset_disagrees {gi : Nat} {s : Sys} {a : Act} {t : UInt8} {d : Nat → UInt8}
    (h : MapInv gi s) (hcores : 0 < s.ctx.config.fpCoresMax)
    (hup : (s.step a).1.down = none) (he : s.handles a = some (gi, t, d))
    (ht : QueueType.ofByte? t = some .newProtoReq) (ha : newProtoAccepted s.ctx d = true)
    (hmaps : (s.ctx.guests gi).proto.nmaps ≠ 0) : ¬ MapsAgree gi (s.step a).1 := by
  intro hagree
  obtain ⟨-, -, ms, -, -, hh⟩ := Sys.step_handles he hup
  have heff := hh.effect
  have hcount := hagree.count 0 (by rw [hh.config]; exact hcores)
  rw [hh.id] at hcount
  have hms : ∀ m ∈ ms 0, ¬ touchesMaps (s.ctx.guests gi).id m := by
    intro m hm htm
    have := (heff.touches hm htm).2.1
    rw [ht] at this
    cases this
  rw [drained_append hh.cores (hh.queue 0), (foldl_sameMaps hms _).nmaps, (h.core 0 hcores).1,
    ← h.count] at hcount
  have hzero : ((s.step a).1.ctx.guests gi).proto.nmaps = 0 := by
    generalize ((s.step a).1.ctx.guests gi).proto = p at heff ⊢
    generalize ((s.step a).1.ctx.guests gi).alloc = al at heff
    cases heff with
    | proto => rfl
    | nothing _ _ hp => rw [hp ht] at ha; cases ha
    | map ht' | queue ht' | queueRefused ht' | enable ht' | disable ht' | ebpfAllocate ht'
    | ebpfFree ht' | upload ht' => rw [ht] at ht'; cases ht'
  exact hmaps (by rw [hcount, hzero])

/-- **Control path and cores agree on the maps.** From a guest whose maps the
cores know, in every run that does not register the guest again while it has
maps, every core that has drained its queue has as many maps as the control
path, at most `MAX_PROTO_MAPS`, and at each index the map that was reported
to the guest under that number; and from any state of such a run the next
step keeps this exactly when it is no such registration. -/
theorem maps_agree_iff_no_reset {gi : Nat} {s₀ s : Sys} {log : List Unit}
    (hcores : 0 < s₀.ctx.config.fpCoresMax)
    (hreg : (s₀.ctx.guests gi).proto.nmaps = 0) (hrep : s₀.reported gi = [])
    (hnew : ∀ i, i < s₀.ctx.config.fpCoresMax →
      ((s₀.drained i).guests (s₀.ctx.guests gi).id).nmaps = 0)
    (hid : ∀ j, j ≠ gi → (s₀.ctx.guests j).id ≠ (s₀.ctx.guests gi).id)
    (hrun : Run (NoReset gi) Sys.step s₀ log s) :
    MapsAgree gi s ∧ ∀ a, (s.step a).1.down = none →
      (MapsAgree gi (s.step a).1 ↔ NoReset gi s a) := by
  have hinv : MapInv gi s ∧ 0 < s.ctx.config.fpCoresMax := by
    refine hrun.inv (I := fun _ s => MapInv gi s ∧ 0 < s.ctx.config.fpCoresMax) ⟨⟨hid, ?_, ?_, ?_, ?_⟩,
      hcores⟩ ?_
    · rw [hreg, hrep]
      rfl
    · rw [hreg]
      exact Nat.zero_le _
    · intro k m hk
      rw [hrep] at hk
      cases hk
    · intro i hi
      rw [hrep]
      exact ⟨hnew i hi, fun k m hk => by cases hk⟩
    · intro _ s a h hok
      exact ⟨h.1.step hok, by rw [s.step_config a]; exact h.2⟩
  refine ⟨hinv.1.agree, fun a hup => ⟨fun hagree t d he ht ha => ?_, fun hok => ?_⟩⟩
  · apply Classical.byContradiction
    intro hne
    exact reset_disagrees hinv.1 hinv.2 hup he ht ha hne hagree
  · exact (hinv.1.step hok).agree

/-- A map of sixteen 8-byte elements. -/
theorem maps_agree_iff_no_reset_one :
    MapsAgree 0 (smallSys.exec
      [.post 0 QueueType.newMapReq.toByte (newMapReqFill 16 8 0 fun _ => 0), .control,
        .control]) := by
  have h₁ : Run (NoReset 0) Sys.step smallSys _ _ :=
    Run.snoc (a := .post 0 QueueType.newMapReq.toByte (newMapReqFill 16 8 0 fun _ => 0))
      Run.nil (fun t d h => by cases h)
  have h₂ := Run.snoc (a := .control) h₁ (fun t d h => by cases h)
  have hrun := Run.snoc (a := .control) h₂ (fun t d h _ _ => by
    cases h
    rfl)
  have hnew : ∀ i, i < smallSys.ctx.config.fpCoresMax →
      ((smallSys.drained i).guests (smallSys.ctx.guests 0).id).nmaps = 0 := fun i _ => rfl
  exact (maps_agree_iff_no_reset (by decide) rfl rfl hnew (fun j hj => hj) hrun).1

/-- The guest creates a map and registers again: the control path counts no
map, the core still counts one. -/
theorem second_registration_disagrees :
    ¬ MapsAgree 0 (smallSys.exec
      [.post 0 QueueType.newMapReq.toByte (newMapReqFill 16 8 0 fun _ => 0), .control, .control,
        .drain 0, .post 0 QueueType.newProtoReq.toByte (fun _ => 1), .control]) := by
  intro h
  exact absurd (h.count 0 (by decide +kernel)) (by decide +kernel)

end Chamelio.Control
