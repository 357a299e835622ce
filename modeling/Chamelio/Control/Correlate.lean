import Chamelio.Control.QueueIds
import Chamelio.Control.GuestLib

/-!
# Requests and responses correlate

One call is outstanding at a time, so the two rings hold one message
between them: the request until the control path takes it, then the
response until the library takes it. `Phase` follows that message. It
returns to the object it was sent for because a granted queue's response
repeats the address of its request.
-/

namespace Chamelio.Control

open Chamelio.Lib Chamelio.Util Chamelio.Fast

/-! ## Steps of the system, seen from one guest -/

/-- A step of the control path that handles no entry of guest `gi` leaves
its record alone. -/
theorem Sys.control_guest {s : Sys} {gi : Nat} (hup : s.down = none)
    (hh : ∀ t d, s.nextEntry ≠ some (gi, t, d)) : s.control.ctx.guests gi = s.ctx.guests gi := by
  cases hn : s.nextEntry with
  | none => rw [(Sys.control_quiet hn).2]
  | some e =>
    obtain ⟨gj, t, d⟩ := e
    have hne : gi ≠ gj := fun hgi => hh t d (by rw [hn, hgi])
    cases hd : s.control.down with
    | some e => rw [Sys.control_down hup hn (by rw [hd]; exact Option.some_ne_none e)]
    | none =>
      obtain ⟨l, hp, hdone, rfl, hhead⟩ := Sys.nextEntry_some hn
      cases hi : pollGuestsIter s.ctx l with
      | error e => simp [Sys.control, hp, if_neg hdone, hi] at hd
      | ok r =>
        obtain ⟨ctx', l'⟩ := r
        obtain ⟨ctx₁, g₁, heq, rfl⟩ := pollGuestsIter_handled hhead hi
        obtain ⟨-, ms, hs, -⟩ := handleEntry_effect heq
        simp only [Sys.control, hp, if_neg hdone, hi, hn]
        rw [setGuest_ne _ hne, hs.rest]

/-- What guest `gi` sees of a step that neither uses its rings nor handles
its entries: nothing. -/
structure SameSide (gi : Nat) (s s' : Sys) : Prop where
  guest : s'.ctx.guests gi = s.ctx.guests gi
  created : s'.created gi = s.created gi
  reported : s'.reported gi = s.reported gi

theorem Sys.step_sameSide {s : Sys} {a : Act} {gi : Nat} (hr : a.usesRings gi = false)
    (hh : ∀ t d, s.handles a ≠ some (gi, t, d)) : SameSide gi s (s.step a).1 := by
  refine ⟨?_, ?_, ?_⟩
  · unfold Sys.step
    by_cases hd : s.down.isSome
    · rw [if_pos hd]
    · rw [if_neg hd]
      cases a with
      | post gj t d =>
        have hne : gi ≠ gj := fun e => by simp [Act.usesRings, e] at hr
        simp only [Sys.post]
        split
        · exact setGuest_ne _ hne
        · rfl
      | read gj =>
        have hne : gi ≠ gj := fun e => by simp [Act.usesRings, e] at hr
        simp only [Sys.read]
        split
        · rfl
        · exact setGuest_ne _ hne
      | drain i =>
        simp only [Sys.drain]
        split <;> rfl
      | other i =>
        simp only [Sys.other]
        split <;> rfl
      | env heapOk uploadOk => rfl
      | control =>
        refine Sys.control_guest (Option.not_isSome_iff_eq_none.mp hd) fun t d hn => hh t d ?_
        unfold Sys.handles
        rw [if_neg hd, hn]
  · rcases s.step_cases a with hq | ⟨i, m, hdr⟩ | ⟨i, ho⟩ | ⟨gj, t, d, ms, he, hh'⟩
    · rw [hq.created]
    · rw [hdr.created]
    · rw [ho.created]
    · rw [hh'.created gi, if_neg]
      intro hc
      exact hh t d (by rw [he, hc.1])
  · rcases s.step_cases a with hq | ⟨i, m, hdr⟩ | ⟨i, ho⟩ | ⟨gj, t, d, ms, he, hh'⟩
    · rw [hq.reported]
    · rw [hdr.reported]
    · rw [ho.reported]
    · rw [hh'.reported gi, if_neg]
      intro hc
      exact hh t d (by rw [he, hc.1])

/-- A step that brings the control path down leaves the guest alone, and one
that handles its entry and does not runs the handler on it. -/
theorem Sys.step_entry {s : Sys} {a : Act} {gi : Nat} {t : UInt8} {d : Nat → UInt8}
    (he : s.handles a = some (gi, t, d)) :
    SameSide gi s (s.step a).1 ∨ ∃ ctx₁ g₁ ms,
      handleEntry s.ctx (s.ctx.guests gi) t d = .ok (ctx₁, g₁) ∧
      (s.step a).1.ctx.guests gi = { g₁ with guestChamQ := g₁.guestChamQ.pop } ∧
      Handles s (s.step a).1 gi t d ms := by
  obtain ⟨hup, hn, hstep⟩ := Sys.handles_control he
  cases hd : (s.step a).1.down with
  | none => exact Or.inr (Sys.step_handles he hd)
  | some e =>
    left
    rw [hstep] at hd ⊢
    rw [Sys.control_down hup hn (by rw [hd]; exact Option.some_ne_none e)]
    exact ⟨rfl, rfl, rfl⟩

/-- A granted queue: the response repeats the request's address. -/
theorem newQueue_granted {ctx ctx' : ControlCtx} {g g' : GuestControl} {t : UInt8}
    {d : Nat → UInt8} {alloc : ShmAllocator} {sh : Region}
    (ht : QueueType.ofByte? t = some .newQueueReq)
    (hg : queueGrant ctx g d = some (alloc, sh))
    (h : handleEntry ctx g t d = .ok (ctx', g')) :
    g'.guestChamQ = g.guestChamQ ∧
      g'.chamGuestQ = g.chamGuestQ.push (newQueueResFill g.proto.nqueues (NewQueueReq.nelems d)
        (NewQueueReq.elsize d) sh.off (NewQueueReq.opq d)) QueueType.newQueueRes.toByte ∧
      g.proto.nqueues < maxProtoQueues ∧
      g'.proto.nqueues = (g.proto.nqueues + 1) % 65536 := by
  unfold queueGrant at hg
  split at hg
  · cases hg
  · next hmax =>
    simp only [handleEntry, ht, controlGuestNewQueue, if_neg hmax] at h
    split at h
    · cases h
    · split at h
      · cases h
      · rw [hg] at h
        dsimp only at h
        split at h
        · cases h
        · cases h
          exact ⟨rfl, rfl, by omega, rfl⟩

/-! ## One message in a ring -/

/-- The ring holds exactly one message. -/
structure OneMsg (q : SlotQ) (t : UInt8) (d : Nat → UInt8) : Prop where
  head : q.head? = some (t, d)
  pop : q.pop.Empty

theorem OneMsg.of_push {q : SlotQ} (h : q.Empty) (fill : (Nat → UInt8) → Nat → UInt8)
    {t : QueueType} (ht : t ≠ .empty) :
    OneMsg (q.push fill t.toByte) t.toByte (fill (q.data q.tail)) :=
  ⟨h.push_head? (QueueType.toByte_ne_zero ht), h.push_pop fill _⟩

/-- The response to a granted queue: with the ring empty before, it is the
one message in it, with the request's address and number of elements. -/
theorem newQueue_answer {ctx ctx' : ControlCtx} {g g' : GuestControl} {t : UInt8}
    {d : Nat → UInt8} {alloc : ShmAllocator} {sh : Region}
    (ht : QueueType.ofByte? t = some .newQueueReq)
    (hg : queueGrant ctx g d = some (alloc, sh))
    (h : handleEntry ctx g t d = .ok (ctx', g')) (hres : g.chamGuestQ.Empty) :
    ∃ r, OneMsg g'.chamGuestQ QueueType.newQueueRes.toByte r ∧
      leGet r 24 8 = NewQueueReq.opq d ∧ leGet r 4 4 = NewQueueReq.nelems d := by
  obtain ⟨-, hq, -, -⟩ := newQueue_granted ht hg h
  refine ⟨_, by rw [hq]; exact OneMsg.of_push hres _ (by decide), ?_, ?_⟩
  · unfold newQueueResFill
    simp (disch := omega) only [leGet_lePut]
    exact Nat.mod_eq_of_lt (leGet_lt d 26 8)
  · unfold newQueueResFill
    simp (disch := omega) only [leGet_lePut, leGet_lePut_ne]
    exact Nat.mod_eq_of_lt (leGet_lt d 6 4)

/-! ## The phases of a call -/

/-- Where the one message of the current call is. -/
inductive Phase (gi : Nat) (s : LibSys) : Prop
  | idle (hw : s.wait = none) (hreq : (s.sys.ctx.guests gi).guestChamQ.Empty)
      (hres : (s.sys.ctx.guests gi).chamGuestQ.Empty)
      (hn : s.p.nqueues = (s.sys.created gi).length)
  | requested {d : Nat → UInt8} (hw : s.wait = some (.queue s.p.nqueues))
      (hk : s.p.nqueues < maxProtoQueues) (hz : (s.p.queues s.p.nqueues).nelems = 0)
      (hreq : OneMsg (s.sys.ctx.guests gi).guestChamQ QueueType.newQueueReq.toByte d)
      (ho : NewQueueReq.opq d = s.p.addr (.queue s.p.nqueues)) (hne : NewQueueReq.nelems d ≠ 0)
      (hres : (s.sys.ctx.guests gi).chamGuestQ.Empty)
      (hn : s.p.nqueues = (s.sys.created gi).length)
  | answered {d : Nat → UInt8} (hw : s.wait = some (.queue s.p.nqueues))
      (hk : s.p.nqueues < maxProtoQueues) (hz : (s.p.queues s.p.nqueues).nelems = 0)
      (hreq : (s.sys.ctx.guests gi).guestChamQ.Empty)
      (hres : OneMsg (s.sys.ctx.guests gi).chamGuestQ QueueType.newQueueRes.toByte d)
      (ho : leGet d 24 8 = s.p.addr (.queue s.p.nqueues)) (hne : leGet d 4 4 ≠ 0)
      (hn : s.p.nqueues + 1 = (s.sys.created gi).length)

structure LibInv (gi : Nat) (s : LibSys) : Prop where
  fault : s.fault = false
  base : s.p.qbase + 32 * maxProtoQueues ≤ 18446744073709551616
  ctl : (s.sys.ctx.guests gi).proto.nqueues = (s.sys.created gi).length
  nmaps : s.p.nmaps = 0
  reported : s.sys.reported gi = []
  phase : Phase gi s

/-- The condition on a step: no map is requested, queues have elements and
fit the library's table, and the control path refuses no queue. -/
def LibOk (gi : Nat) (s : LibSys) : LibAct → Prop
  | .newQueue n _ => n ≠ 0 ∧ s.p.nqueues < maxProtoQueues
  | .newMap _ _ => False
  | .poll => True
  | .env a => NoRefusal gi s.sys a

/-- What a caller may rely on in a state between calls or during one. -/
structure Correlated (gi : Nat) (s : LibSys) : Prop where
  /-- No wild write happened. -/
  fault : s.fault = false
  /-- After a call the counters are those of the control path. -/
  counts : s.wait = none → s.p.nqueues = (s.sys.created gi).length ∧
    s.p.nmaps = (s.sys.reported gi).length
  /-- A waiting call has its request or its response still in a ring. -/
  live : s.wait ≠ none → (s.sys.ctx.guests gi).guestChamQ.head? ≠ none ∨
    (s.sys.ctx.guests gi).chamGuestQ.head? ≠ none
  /-- A response in the ring completes the call that waits. -/
  answer : ∀ w, s.wait = some w → (s.sys.ctx.guests gi).chamGuestQ.head? ≠ none →
    (s.poll gi).2 = ⟨some (w, w), some w⟩

/-! ## The steps of a call -/

theorem LibInv.env {gi : Nat} {s : LibSys} {a : Act} (h : LibInv gi s)
    (hr : a.usesRings gi = false) (hok : NoRefusal gi s.sys a) :
    LibInv gi { s with sys := (s.sys.step a).1 } := by
  have hsame : SameSide gi s.sys (s.sys.step a).1 →
      LibInv gi { s with sys := (s.sys.step a).1 } := by
    intro hs
    refine ⟨h.fault, h.base, ?_, h.nmaps, hs.reported.trans h.reported, ?_⟩
    · dsimp only
      rw [hs.guest, hs.created]
      exact h.ctl
    · cases h.phase with
      | idle hw hreq hres hn =>
        exact Phase.idle hw (by rwa [hs.guest]) (by rwa [hs.guest]) (by rwa [hs.created])
      | requested hw hk hz hreq ho hne hres hn =>
        exact Phase.requested hw hk hz (by rwa [hs.guest]) ho hne (by rwa [hs.guest])
          (by rwa [hs.created])
      | answered hw hk hz hreq hres ho hne hn =>
        exact Phase.answered hw hk hz (by rwa [hs.guest]) (by rwa [hs.guest]) ho hne
          (by rwa [hs.created])
  cases he : s.sys.handles a with
  | none => exact hsame (Sys.step_sameSide hr fun t d => by rw [he]; exact nofun)
  | some e =>
    obtain ⟨gj, t, d⟩ := e
    by_cases hj : gj = gi
    · subst hj
      rcases Sys.step_entry he with hs | ⟨ctx₁, g₁, ms, hh, hguest, hhs⟩
      · exact hsame hs
      · -- the entry is the request in flight: in the other phases there is none
        have hhead := Sys.handles_head he
        cases h.phase with
        | idle hw hreq hres hn => rw [hreq.head?] at hhead; cases hhead
        | answered hw hk hz hreq hres ho hne hn => rw [hreq.head?] at hhead; cases hhead
        | @requested d' hw hk hz hreq ho hne hres hn =>
          rw [hreq.head] at hhead
          obtain ⟨rfl, rfl⟩ : QueueType.newQueueReq.toByte = t ∧ d' = d := by simpa using hhead
          have ht := QueueType.ofByte?_toByte .newQueueReq
          obtain ⟨r, hg⟩ := Option.ne_none_iff_exists'.mp (hok _ _ he ht)
          obtain ⟨alloc, sh⟩ := r
          obtain ⟨hq₁, -, hlt, hnq⟩ := newQueue_granted ht hg hh
          have hcre : (s.sys.step a).1.created gj = s.sys.created gj ++
              [(s.sys.ctx.guests gj).proto.nqueues] := by
            rw [hhs.created gj, if_pos ⟨rfl, ht, by rw [hg]; rfl⟩]
          have hlen : ((s.sys.step a).1.created gj).length = (s.sys.created gj).length + 1 := by
            rw [hcre, List.length_append, List.length_singleton]
          have hctl := h.ctl
          unfold maxProtoQueues at hlt hk
          obtain ⟨r, hone, hopq, hnel⟩ := newQueue_answer ht hg hh hres
          refine ⟨h.fault, h.base, ?_, h.nmaps, ?_, ?_⟩
          · dsimp only
            rw [hguest, hlen]
            show g₁.proto.nqueues = _
            rw [hnq]
            omega
          · rw [← h.reported]
            dsimp only
            rw [hhs.reported gj, if_neg (fun hc => by rw [ht] at hc; cases hc.2)]
          · have hres' : OneMsg ((s.sys.step a).1.ctx.guests gj).chamGuestQ
                QueueType.newQueueRes.toByte r := by
              rw [hguest]
              exact hone
            refine Phase.answered hw hk hz ?_ hres' (by rw [hopq, ho]) (by rwa [hnel]) ?_
            · dsimp only
              rw [hguest]
              show g₁.guestChamQ.pop.Empty
              rw [hq₁]
              exact hreq.pop
            · rw [hlen, ← hn]
    · refine hsame (Sys.step_sameSide hr fun t' d' => ?_)
      rw [he]
      intro hc
      exact hj (by simpa using congrArg Prod.fst (Option.some.inj hc))

/-- A call starts in the idle phase. -/
theorem LibInv.newQueue {gi : Nat} {s : LibSys} {n e : UInt32} (h : LibInv gi s)
    (hw : s.wait = none) (hn0 : n ≠ 0) (hk : s.p.nqueues < maxProtoQueues) :
    LibInv gi (s.chamNewQueue gi n.toNat e.toNat) := by
  cases h.phase with
  | requested hw' => rw [hw] at hw'; cases hw'
  | answered hw' => rw [hw] at hw'; cases hw'
  | idle _ hreq hres hn =>
    unfold LibSys.chamNewQueue
    dsimp only
    rw [hreq.hasRoom]
    simp only [Bool.not_true, Bool.false_eq_true, if_false, if_neg (Nat.not_le.mpr hk)]
    have hmsg := OneMsg.of_push hreq
      (newQueueReqFill n.toNat e.toNat (s.p.addr (.queue s.p.nqueues)))
      (show QueueType.newQueueReq ≠ .empty by decide)
    have hg : ∀ g, (s.sys.ctx.setGuest gi g).guests gi = g := setGuest_same _ _
    have hb := h.base
    refine ⟨h.fault, ?_, ?_, ?_, h.reported, ?_⟩
    · simp only [ProtoLib.set_qbase, LibSys.request]
      exact hb
    · simp only [LibSys.request, hg]
      exact h.ctl
    · simp only [ProtoLib.set_nmaps, LibSys.request]
      exact h.nmaps
    · refine Phase.requested (d := newQueueReqFill n.toNat e.toNat
        (s.p.addr (.queue s.p.nqueues)) ((s.sys.ctx.guests gi).guestChamQ.data
          (s.sys.ctx.guests gi).guestChamQ.tail)) rfl ?_ ?_ ?_ ?_ ?_ ?_ ?_
      · exact hk
      · simp only [LibSys.request, ProtoLib.set, if_true]
      · simp only [LibSys.request, hg]
        exact hmsg
      · unfold newQueueReqFill NewQueueReq.opq
        simp (disch := omega) only [leGet_lePut]
        apply Nat.mod_eq_of_lt
        rw [wordSize_eight]
        unfold ProtoLib.addr maxProtoQueues at *
        dsimp only at *
        omega
      · unfold newQueueReqFill NewQueueReq.nelems
        simp (disch := omega) only [leGet_lePut, leGet_lePut_ne, wordSize_four]
        rw [Nat.mod_eq_of_lt n.toNat_lt]
        intro hz
        exact hn0 (UInt32.toNat_inj.mp (by rw [hz]; rfl))
      · simp only [LibSys.request, hg]
        exact hres
      · exact hn

/-- The state after the response `d` of the waiting call was taken. -/
def LibSys.afterAnswer (s : LibSys) (gi : Nat) (d : Nat → UInt8) : LibSys :=
  let g := s.sys.ctx.guests gi
  let g := { g with chamGuestQ := g.chamGuestQ.pop }
  let p := s.p.set (.queue s.p.nqueues) (newQueueResObj d)
  { s with
    sys := { s.sys with ctx := s.sys.ctx.setGuest gi g }
    p := { p with nqueues := (s.p.nqueues + 1) % 65536 }
    wait := none }

/-- The poll that takes the response writes the waiting object and returns
it. -/
theorem poll_answered {gi : Nat} {s : LibSys} {d : Nat → UInt8}
    (hw : s.wait = some (.queue s.p.nqueues)) (hk : s.p.nqueues < maxProtoQueues)
    (hres : OneMsg (s.sys.ctx.guests gi).chamGuestQ QueueType.newQueueRes.toByte d)
    (ho : leGet d 24 8 = s.p.addr (.queue s.p.nqueues)) (hne : leGet d 4 4 ≠ 0) :
    s.poll gi = (s.afterAnswer gi d,
        ⟨some (.queue s.p.nqueues, .queue s.p.nqueues), some (.queue s.p.nqueues)⟩) := by
  have hh : chamHandle s.p QueueType.newQueueRes.toByte d =
      some ({ s.p.set (.queue s.p.nqueues) (newQueueResObj d) with
        nqueues := (s.p.nqueues + 1) % 65536 }, some (.queue s.p.nqueues)) := by
    unfold chamHandle
    rw [QueueType.ofByte?_toByte, ho, ProtoLib.objAt_queue hk]
  unfold LibSys.poll LibSys.chamPollControl
  simp only [hw, hres.head, hh]
  rw [if_pos]
  · rfl
  · show ((s.p.set (.queue s.p.nqueues) (newQueueResObj d)).get (.queue s.p.nqueues)).nelems ≠ 0
    rw [ProtoLib.get_set]
    exact hne

/-- A poll with an empty response ring changes nothing. -/
theorem poll_empty {gi : Nat} {s : LibSys}
    (hw : s.wait = some (.queue s.p.nqueues)) (hz : (s.p.queues s.p.nqueues).nelems = 0)
    (hres : (s.sys.ctx.guests gi).chamGuestQ.Empty) : s.poll gi = (s, LibOut.none) := by
  unfold LibSys.poll LibSys.chamPollControl
  simp only [hw, hres.head?]
  rw [if_neg]
  · rfl
  · show ¬ (s.p.queues s.p.nqueues).nelems ≠ 0
    rw [hz]
    exact fun h => h rfl

/-- Every poll keeps the invariant, and writes only the object waited for. -/
theorem LibInv.poll {gi : Nat} {s : LibSys} (h : LibInv gi s) :
    LibInv gi (s.poll gi).1 ∧ ∀ o w, (s.poll gi).2.updated = some (o, w) → o = w := by
  cases h.phase with
  | idle hw =>
    have : s.poll gi = (s, LibOut.none) := by
      unfold LibSys.poll
      rw [hw]
    rw [this]
    exact ⟨h, fun o w hu => by cases hu⟩
  | requested hw hk hz hreq ho hne hres hn =>
    rw [poll_empty hw hz hres]
    exact ⟨h, fun o w hu => by cases hu⟩
  | answered hw hk hz hreq hres ho hne hn =>
    rw [poll_answered hw hk hres ho hne]
    have hg : ∀ g, (s.sys.ctx.setGuest gi g).guests gi = g := setGuest_same _ _
    refine ⟨⟨h.fault, ?_, ?_, ?_, h.reported, ?_⟩, ?_⟩
    · exact h.base
    · simp only [LibSys.afterAnswer, hg]
      exact h.ctl
    · exact h.nmaps
    · refine Phase.idle rfl ?_ ?_ ?_
      · simp only [LibSys.afterAnswer, hg]
        exact hreq
      · simp only [LibSys.afterAnswer, hg]
        exact hres.pop
      · unfold maxProtoQueues at hk
        simp only [LibSys.afterAnswer]
        omega
    · intro o w hu
      cases hu
      rfl

theorem LibInv.step {gi : Nat} {s : LibSys} {a : LibAct} (h : LibInv gi s)
    (hok : LibOk gi s a) :
    LibInv gi (s.step gi a).1 ∧ ∀ o w, (s.step gi a).2.updated = some (o, w) → o = w := by
  have hf : ¬ s.fault = true := by rw [h.fault]; exact Bool.false_ne_true
  unfold LibSys.step
  rw [if_neg hf]
  cases a with
  | newQueue n e =>
    dsimp only
    split
    · exact ⟨h, fun o w hu => by cases hu⟩
    · next hw =>
      have hw' : s.wait = none := by simpa using hw
      exact ⟨h.newQueue hw' hok.1 hok.2, fun o w hu => by cases hu⟩
  | newMap n e => exact hok.elim
  | poll => exact h.poll
  | env a =>
    dsimp only
    split
    · exact ⟨h, fun o w hu => by cases hu⟩
    · next hr => exact ⟨h.env (by simpa using hr) hok, fun o w hu => by cases hu⟩

theorem LibInv.correlated {gi : Nat} {s : LibSys} (h : LibInv gi s) : Correlated gi s := by
  refine ⟨h.fault, fun hw => ?_, fun hw => ?_, fun w hw hne => ?_⟩
  · cases h.phase with
    | idle _ _ _ hn =>
      refine ⟨hn, ?_⟩
      rw [h.nmaps, h.reported]
      rfl
    | requested hw' => rw [hw] at hw'; cases hw'
    | answered hw' => rw [hw] at hw'; cases hw'
  · cases h.phase with
    | idle hw' => exact absurd hw' hw
    | requested _ _ _ hreq =>
      left
      rw [hreq.head]
      exact Option.some_ne_none _
    | answered _ _ _ _ hres =>
      right
      rw [hres.head]
      exact Option.some_ne_none _
  · cases h.phase with
    | idle hw' => rw [hw] at hw'; cases hw'
    | requested _ _ _ _ _ _ hres => exact absurd hres.head? hne
    | answered hw' hk hz hreq hres ho hne hn =>
      rw [poll_answered hw' hk hres ho hne]
      rw [hw] at hw'
      cases hw'
      rfl

/-- The library right after registration: nothing created, nothing in the
rings. -/
structure LibInit (gi : Nat) (s : LibSys) : Prop where
  fault : s.fault = false
  wait : s.wait = none
  base : s.p.qbase + 32 * maxProtoQueues ≤ 18446744073709551616
  nqueues : s.p.nqueues = 0
  nmaps : s.p.nmaps = 0
  ctl : (s.sys.ctx.guests gi).proto.nqueues = 0
  created : s.sys.created gi = []
  reported : s.sys.reported gi = []
  requests : (s.sys.ctx.guests gi).guestChamQ.Empty
  responses : (s.sys.ctx.guests gi).chamGuestQ.Empty

/-- **Calls and responses correlate while only queues are asked for and none
is refused.** In every run from a fresh registration in which no map is
requested, every requested queue has elements and the control path refuses
none, each response writes exactly the object the current call waits for,
the call then returns it, no call waits without its message in a ring, and
after every call the library counts the queues and maps the control path
created. -/
theorem calls_correlate {gi : Nat} {s₀ s : LibSys} {log : List LibOut} (h₀ : LibInit gi s₀)
    (hrun : Run (LibOk gi) (LibSys.step gi) s₀ log s) :
    Correlated gi s ∧ ∀ out ∈ log, ∀ o w, out.updated = some (o, w) → o = w := by
  have hinv : LibInv gi s ∧ ∀ out ∈ log, ∀ o w, out.updated = some (o, w) → o = w := by
    refine hrun.inv (I := fun log s => LibInv gi s ∧
      ∀ out ∈ log, ∀ o w, out.updated = some (o, w) → o = w) ⟨⟨h₀.fault, h₀.base, ?_, h₀.nmaps,
      h₀.reported, Phase.idle h₀.wait h₀.requests h₀.responses ?_⟩, nofun⟩ ?_
    · rw [h₀.ctl, h₀.created]
      rfl
    · rw [h₀.nqueues, h₀.created]
      rfl
    · rintro log s a ⟨h, hlog⟩ hok
      obtain ⟨hnext, hout⟩ := h.step hok
      refine ⟨hnext, fun out hm => ?_⟩
      rcases List.mem_append.mp hm with hm | hm
      · exact hlog out hm
      · rw [List.mem_singleton.mp hm]
        exact hout
  exact ⟨hinv.1.correlated, hinv.2⟩

/-- A library that just registered with the small system. -/
def smallLib : LibSys :=
  { sys := smallSys
    p := { qbase := 4096, nqueues := 0, nmaps := 0, queues := fun _ => ⟨0, 0, 0, 0⟩
           maps := fun _ => ⟨0, 0, 0, 0⟩ }
    wait := none, fault := false }

def LibSys.exec (gi : Nat) (s : LibSys) (acts : List LibAct) : LibSys :=
  acts.foldl (fun s a => (s.step gi a).1) s

/-- A queue of four elements: requested, granted and returned. -/
theorem calls_correlate_queue :
    Correlated 0 (smallLib.exec 0 [.newQueue 4 64, .env .control, .env .control, .poll]) := by
  have hinit : LibInit 0 smallLib :=
    ⟨rfl, rfl, by decide, rfl, rfl, rfl, rfl, rfl, SlotQ.zeroed_empty 8, SlotQ.zeroed_empty 8⟩
  have hok₁ : LibOk 0 smallLib (.newQueue 4 64) := ⟨by decide, by decide⟩
  have h₁ : Run (LibOk 0) (LibSys.step 0) smallLib _ _ :=
    Run.snoc (a := LibAct.newQueue 4 64) Run.nil hok₁
  have hok₂ : LibOk 0 (smallLib.step 0 (.newQueue 4 64)).1 (.env .control) :=
    fun t d h _ => by cases h
  have h₂ := Run.snoc (a := LibAct.env .control) h₁ hok₂
  have hok₃ : LibOk 0 (smallLib.exec 0 [.newQueue 4 64, .env .control]) (.env .control) := by
    intro t d h _
    cases h
    exact Option.isSome_iff_ne_none.mp (by decide +kernel)
  have h₃ := Run.snoc (a := LibAct.env .control) h₂ hok₃
  have hrun := Run.snoc (a := LibAct.poll) h₃ trivial
  exact (calls_correlate hinit hrun).1

/-- One granted map: the call has returned and the library counts two maps. -/
theorem granted_map_is_counted_twice :
    ¬ Correlated 0 (smallLib.exec 0 [.newMap 16 8, .env .control, .env .control, .poll]) := by
  intro h
  exact absurd (h.counts (by decide +kernel)).2 (by decide +kernel)

end Chamelio.Control
