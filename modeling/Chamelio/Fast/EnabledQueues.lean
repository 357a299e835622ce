import Mathlib.Data.List.Perm.Subperm
import Mathlib.Data.List.Rotate
import Chamelio.Control.System
import Chamelio.Fast.Poll
import Chamelio.Lib.Chain
import Chamelio.Lib.Run

/-!
# The list of enabled queues

A core polls the enabled queues of a guest in turn. They are threaded through
`dqueues` by `next`, from `dqueues_head` to `dqueues_tail`: `handle_enableq`
appends a queue, the poll loop moves the head to the tail when it has drained
it, and `handle_disableq` takes a queue out.

Rotation sets `next` and not `prev`, and `handle_disableq` ends the list in
front of the queue it takes out and never joins its neighbours. So a disable
leaves the list of the other queues exactly if the queue is at one end of it
and its `prev` says what it has to (`Removable`): the queue before it if it is
the last one, `PROTOQ_ID_INVALID` if it is the only one, and not a queue in
the middle if it is the first one. In runs in which every disable is like
that, the list is what it should be in every state.

Mirroring notes: the abstract state `enabled` is the list the messages and
rotations say, in round-robin order. The queue of a message is below
`MAX_PROTO_QUEUES`, which the control path checks, and the poll loop rotates
only if there is a queue.
-/

namespace Chamelio.Fast

open Chamelio.Control Chamelio.Lib

/-- `next` of the queues of a guest. -/
def GuestFast.nextOf (g : GuestFast) (q : Nat) : Nat := (g.dqueues q).next

/-- The list reached from `dqueues_head` over `next` is `l`, `dqueues_tail` is
its last queue and `ndqueues` its length. -/
structure Listed (g : GuestFast) (l : List Nat) : Prop where
  chain : Chain g.nextOf protoqIdInvalid g.dqueuesHead l
  tail : g.dqueuesTail = l.getLast?.getD protoqIdInvalid
  count : g.ndqueues = l.length

/-- The queues of the list are there once, under their own ids. -/
structure QueuesOk (g : GuestFast) (l : List Nat) : Prop where
  nodup : l.Nodup
  lt : ∀ q ∈ l, q < maxProtoQueues
  id : ∀ q ∈ l, (g.dqueues q).id = q

/-- The head is taken off and put at the end. -/
def GuestFast.rotateHead (g : GuestFast) : GuestFast := Poll.dqueueRotateHead g g.dqueuesHead

/-- A queue whose disable leaves the list of the others: it is at one end; at
the front, its `prev` is no queue that has one behind it; at the back, its
`prev` is the queue in front of it, or none. -/
def Removable (g : GuestFast) (l : List Nat) (qid : Nat) : Prop :=
  (l.head? = some qid ∨ l.getLast? = some qid) ∧
    (l.head? = some qid → (g.dqueues qid).prev ∉ (l.erase qid).dropLast) ∧
    (l.getLast? = some qid →
      (g.dqueues qid).prev = (l.erase qid).getLast?.getD protoqIdInvalid)

instance (g : GuestFast) (l : List Nat) (qid : Nat) : Decidable (Removable g l qid) :=
  inferInstanceAs (Decidable (_ ∧ _ ∧ _))

section guest

variable {g : GuestFast} {l : List Nat} {q qid : Nat}

theorem QueuesOk.valid (h : QueuesOk g l) (hq : q ∈ l) : q ≠ protoqIdInvalid := by
  have := h.lt q hq
  unfold maxProtoQueues at this
  unfold protoqIdInvalid
  omega

theorem QueuesOk.length_le (h : QueuesOk g l) : l.length ≤ maxProtoQueues := by
  have hsub : l ⊆ List.range maxProtoQueues := fun q hq => List.mem_range.mpr (h.lt q hq)
  have := (h.nodup.subperm hsub).length_le
  rwa [List.length_range] at this

/-! ## What each operation writes -/

/-- What `handle_enableq` does to the list fields. -/
structure Enables (g g' : GuestFast) (qid : Nat) : Prop where
  head : g'.dqueuesHead = if g.dqueuesTail = protoqIdInvalid then qid else g.dqueuesHead
  tail : g'.dqueuesTail = qid
  count : g'.ndqueues = (g.ndqueues + 1) % 65536
  id : ∀ x, (g'.dqueues x).id = if x = qid then qid else (g.dqueues x).id
  next : ∀ x, x ≠ protoqIdInvalid → g'.nextOf x =
    if x = qid then protoqIdInvalid else if x = g.dqueuesTail then qid else g.nextOf x

/-- What `handle_disableq` does to them. -/
structure Disables (g g' : GuestFast) (qid : Nat) : Prop where
  head : g'.dqueuesHead =
    if g.dqueuesHead = (g.dqueues qid).id then g.nextOf qid else g.dqueuesHead
  tail : g'.dqueuesTail =
    if g.dqueuesTail = (g.dqueues qid).id then (g.dqueues qid).prev else g.dqueuesTail
  count : g'.ndqueues = (g.ndqueues + 65536 - 1) % 65536
  id : ∀ x, (g'.dqueues x).id = (g.dqueues x).id
  next : ∀ x, x ≠ protoqIdInvalid → g'.nextOf x =
    if x = qid ∨ x = (g.dqueues qid).prev then protoqIdInvalid else g.nextOf x

/-- What `dqueue_rotate_head` does to them. -/
structure Rotates (g g' : GuestFast) : Prop where
  head : (g.dqueues g.dqueuesHead).id = g.dqueuesHead → g'.dqueuesHead =
    if g.ndqueues = 1 ∨ g.dqueuesHead = g.dqueuesTail then g.dqueuesHead
    else g.nextOf g.dqueuesHead
  tail : g'.dqueuesTail = (g.dqueues g.dqueuesHead).id
  count : g'.ndqueues = g.ndqueues
  id : ∀ x, (g'.dqueues x).id = (g.dqueues x).id
  next : ∀ x, g'.nextOf x =
    if x = g.dqueuesHead then protoqIdInvalid
    else if x = g.dqueuesTail then (g.dqueues g.dqueuesHead).id else g.nextOf x

theorem handleEnableq_enables (ctx : FastCtx) (gid protoType qid off nelems elsize : Nat) :
    Enables (ctx.guests gid)
      ((handleEnableq ctx gid protoType qid off nelems elsize).guests gid) qid := by
  unfold handleEnableq
  rw [FastCtx.setGuest_same]
  dsimp only
  refine ⟨?_, rfl, ?_, fun x => ?_, fun x hx => ?_⟩
  · split
    · rfl
    · rfl
  · split
    · rfl
    · rfl
  · unfold GuestFast.setDqueue
    split <;> grind
  · unfold GuestFast.nextOf GuestFast.setDqueue
    split <;> grind

theorem setDqueue_dqueues (g : GuestFast) (i : Nat) (d : ChamDqueue) (x : Nat) :
    (g.setDqueue i d).dqueues x = if x = i then d else g.dqueues x := rfl

theorem handleDisableq_disables (ctx : FastCtx) (gid qid : Nat) :
    Disables (ctx.guests gid) ((handleDisableq ctx gid qid).guests gid) qid := by
  unfold handleDisableq
  rw [FastCtx.setGuest_same]
  generalize ctx.guests gid = g
  dsimp only
  -- the head, the tail, `prev` of the queue behind and `next` of the one in front
  generalize hg₁ : (if g.dqueuesHead = (g.dqueues qid).id then
    { g with dqueuesHead := (g.dqueues qid).next } else g) = g₁
  generalize hg₂ : (if g₁.dqueuesTail = (g.dqueues qid).id then
    { g₁ with dqueuesTail := (g.dqueues qid).prev } else g₁) = g₂
  generalize hg₃ : (if (g.dqueues qid).next ≠ protoqIdInvalid then
    g₂.setDqueue (g.dqueues qid).next
      { g₂.dqueues (g.dqueues qid).next with prev := protoqIdInvalid } else g₂) = g₃
  generalize hg₄ : (if (g.dqueues qid).prev ≠ protoqIdInvalid then
    g₃.setDqueue (g.dqueues qid).prev
      { g₃.dqueues (g.dqueues qid).prev with next := protoqIdInvalid } else g₃) = g₄
  have h₁ : g₁.dqueuesHead =
      (if g.dqueuesHead = (g.dqueues qid).id then (g.dqueues qid).next else g.dqueuesHead) ∧
      g₁.dqueuesTail = g.dqueuesTail ∧ g₁.ndqueues = g.ndqueues ∧ g₁.dqueues = g.dqueues := by
    rw [← hg₁]
    split <;> exact ⟨rfl, rfl, rfl, rfl⟩
  have h₂ : g₂.dqueuesHead = g₁.dqueuesHead ∧ g₂.dqueuesTail =
      (if g₁.dqueuesTail = (g.dqueues qid).id then (g.dqueues qid).prev else g₁.dqueuesTail) ∧
      g₂.ndqueues = g₁.ndqueues ∧ g₂.dqueues = g₁.dqueues := by
    rw [← hg₂]
    split <;> exact ⟨rfl, rfl, rfl, rfl⟩
  have h₃ : g₃.dqueuesHead = g₂.dqueuesHead ∧ g₃.dqueuesTail = g₂.dqueuesTail ∧
      g₃.ndqueues = g₂.ndqueues ∧ ∀ x, (g₃.dqueues x).id = (g₂.dqueues x).id ∧
        (g₃.dqueues x).next = (g₂.dqueues x).next := by
    rw [← hg₃]
    split
    · refine ⟨rfl, rfl, rfl, fun x => ?_⟩
      rw [setDqueue_dqueues]
      split
      · next hx =>
        rw [hx]
        exact ⟨rfl, rfl⟩
      · exact ⟨rfl, rfl⟩
    · exact ⟨rfl, rfl, rfl, fun _ => ⟨rfl, rfl⟩⟩
  have h₄ : g₄.dqueuesHead = g₃.dqueuesHead ∧ g₄.dqueuesTail = g₃.dqueuesTail ∧
      g₄.ndqueues = g₃.ndqueues ∧ ∀ x, (g₄.dqueues x).id = (g₃.dqueues x).id ∧
        (x ≠ protoqIdInvalid → (g₄.dqueues x).next =
          if x = (g.dqueues qid).prev then protoqIdInvalid else (g₃.dqueues x).next) := by
    rw [← hg₄]
    split
    · refine ⟨rfl, rfl, rfl, fun x => ?_⟩
      rw [setDqueue_dqueues]
      split
      · next hx =>
        rw [hx]
        exact ⟨rfl, fun _ => rfl⟩
      · exact ⟨rfl, fun _ => rfl⟩
    · next hnil =>
      refine ⟨rfl, rfl, rfl, fun x => ⟨rfl, fun hx => ?_⟩⟩
      rw [if_neg (fun heq => hx (heq.trans (not_not.mp hnil)))]
  obtain ⟨hh₁, ht₁, hc₁, hd₁⟩ := h₁
  obtain ⟨hh₂, ht₂, hc₂, hd₂⟩ := h₂
  obtain ⟨hh₃, ht₃, hc₃, hd₃⟩ := h₃
  obtain ⟨hh₄, ht₄, hc₄, hd₄⟩ := h₄
  refine ⟨?_, ?_, ?_, fun x => ?_, fun x hx => ?_⟩
  · exact (hh₄.trans hh₃).trans (hh₂.trans hh₁)
  · show g₄.dqueuesTail = _
    rw [ht₄, ht₃, ht₂, ht₁]
  · show (g₄.ndqueues + 65536 - 1) % 65536 = _
    rw [hc₄, hc₃, hc₂, hc₁]
  · have hx : (g₄.dqueues x).id = (g.dqueues x).id := by
      rw [(hd₄ x).1, (hd₃ x).1, hd₂, hd₁]
    dsimp only
    rw [setDqueue_dqueues]
    split
    · next heq => exact heq ▸ hx
    · exact hx
  · unfold GuestFast.nextOf
    dsimp only
    rw [setDqueue_dqueues]
    by_cases heq : x = qid
    · rw [if_pos heq, if_pos (Or.inl heq)]
    · rw [if_neg heq, (hd₄ x).2 hx, (hd₃ x).2, hd₂, hd₁]
      simp only [heq, false_or]

theorem rotateHead_rotates (g : GuestFast) : Rotates g g.rotateHead := by
  unfold GuestFast.rotateHead Poll.dqueueRotateHead
  dsimp only
  refine ⟨fun hid => ?_, ?_, rfl, fun x => ?_, fun x => ?_⟩
  · unfold GuestFast.nextOf GuestFast.setDqueue
    grind
  · unfold GuestFast.setDqueue
    grind
  · unfold GuestFast.setDqueue
    grind
  · unfold GuestFast.nextOf GuestFast.setDqueue
    grind

/-! ## What it does to the list -/

/-- **An enable appends its queue.** -/
theorem Listed.enables {g' : GuestFast} (h : Listed g l) (hok : QueuesOk g l) (hq : qid ∉ l)
    (hlt : qid < maxProtoQueues) (he : Enables g g' qid) : Listed g' (l ++ [qid]) := by
  have hnil : qid ≠ protoqIdInvalid := by
    unfold maxProtoQueues at hlt
    unfold protoqIdInvalid
    omega
  have hlen := hok.length_le
  unfold maxProtoQueues at hlen
  have htail : g'.dqueuesTail = (l ++ [qid]).getLast?.getD protoqIdInvalid := by
    rw [he.tail, List.getLast?_concat]
    rfl
  have hcount : g'.ndqueues = (l ++ [qid]).length := by
    rw [he.count, h.count, List.length_append, List.length_singleton]
    omega
  refine ⟨?_, htail, hcount⟩
  rcases List.eq_nil_or_concat l with rfl | ⟨t, z, rfl⟩
  · have hempty : g.dqueuesTail = protoqIdInvalid := h.tail
    have hhead : g'.dqueuesHead = qid := by rw [he.head, if_pos hempty]
    have hnext : g'.nextOf qid = protoqIdInvalid := by rw [he.next qid hnil, if_pos rfl]
    rw [hhead]
    exact chain_cons hnil ⟨hnext, fun x hx => absurd hx List.not_mem_nil⟩
  · rw [List.concat_eq_append] at *
    have hz : g.dqueuesTail = z := by
      rw [h.tail, List.getLast?_concat]
      rfl
    have hznil : z ≠ protoqIdInvalid := hok.valid (by simp)
    have hhead : g'.dqueuesHead = g.dqueuesHead := by rw [he.head, if_neg (hz ▸ hznil)]
    have hzt : z ∉ t := by
      have := List.nodup_append.mp hok.nodup
      exact fun hm => this.2.2 z hm z (List.mem_singleton_self z) rfl
    rw [hhead]
    refine chain_congr (fun x hx => ?_) (chain_append hzt hq hnil h.chain)
    have hxnil : x ≠ protoqIdInvalid := by
      rcases List.mem_append.mp hx with hx | hx
      · exact hok.valid hx
      · rw [List.mem_singleton.mp hx]
        exact hnil
    rw [he.next x hxnil, hz]
    unfold redirect
    by_cases hxq : x = qid
    · have hxz : x ≠ z := by
        intro heq
        exact hq (hxq ▸ heq ▸ List.mem_append_right t (List.mem_singleton_self x))
      rw [if_pos hxq, if_neg hxz, if_pos hxq]
    · rw [if_neg hxq, if_neg hxq]

/-- **A rotation moves the head to the tail.** -/
theorem Listed.rotates {q : Nat} {t : List Nat} {g' : GuestFast} (h : Listed g (q :: t))
    (hok : QueuesOk g (q :: t)) (hr : Rotates g g') : Listed g' (t ++ [q]) := by
  have hhead : g.dqueuesHead = q := chain_head h.chain
  have hid : (g.dqueues g.dqueuesHead).id = g.dqueuesHead := by
    rw [hhead]
    exact hok.id q List.mem_cons_self
  have hnil : q ≠ protoqIdInvalid := hok.valid List.mem_cons_self
  have htail : g'.dqueuesTail = (t ++ [q]).getLast?.getD protoqIdInvalid := by
    rw [hr.tail, hid, hhead, List.getLast?_concat]
    rfl
  have hcount : g'.ndqueues = (t ++ [q]).length := by
    rw [hr.count, h.count, List.length_append, List.length_singleton, List.length_cons]
  refine ⟨?_, htail, hcount⟩
  have hhead' := hr.head hid
  rcases List.eq_nil_or_concat t with rfl | ⟨t', z, rfl⟩
  · have hone : g.ndqueues = 1 := h.count
    rw [if_pos (Or.inl hone), hhead] at hhead'
    have hnext : g'.nextOf q = protoqIdInvalid := by rw [hr.next q, if_pos hhead.symm]
    rw [hhead']
    exact chain_cons hnil ⟨hnext, fun x hx => absurd hx List.not_mem_nil⟩
  · rw [List.concat_eq_append] at *
    have hz : g.dqueuesTail = z := by
      rw [h.tail, ← List.cons_append, List.getLast?_concat]
      rfl
    obtain ⟨hqt, hnd⟩ := List.nodup_cons.mp hok.nodup
    have hqz : q ≠ z := by
      intro heq
      exact hqt (by simp [heq])
    have hzt : z ∉ t' := by
      have := List.nodup_append.mp hnd
      exact fun hm => this.2.2 z hm z (List.mem_singleton_self z) rfl
    have hmore : ¬ (g.ndqueues = 1 ∨ g.dqueuesHead = g.dqueuesTail) := by
      rw [h.count, hhead, hz]
      intro hor
      rcases hor with hor | hor
      · simp at hor
      · exact hqz hor
    rw [if_neg hmore, hhead] at hhead'
    rw [hhead']
    refine chain_congr (fun x _ => ?_) (chain_append hzt hqt hnil (chain_tail h.chain))
    rw [hr.next x, hid, hhead, hz]
    unfold redirect
    by_cases hxq : x = q
    · rw [if_pos hxq, if_neg (hxq ▸ hqz), if_pos hxq]
    · rw [if_neg hxq, if_neg hxq]

section disables

variable {g' : GuestFast} {x z : Nat} {t l₁ l₂ : List Nat}

/-- The queue taken out was the only one. -/
theorem Listed.disables_only (h : Listed g [qid]) (hok : QueuesOk g [qid])
    (hd : Disables g g' qid) : Listed g' [] ↔ (g.dqueues qid).prev = protoqIdInvalid := by
  have hid := hok.id qid (List.mem_singleton_self qid)
  have hhead : g.dqueuesHead = qid := chain_head h.chain
  have htail : g.dqueuesTail = qid := h.tail
  have hlast : g.nextOf qid = protoqIdInvalid := chain_last (l := []) h.chain
  have htail' : g'.dqueuesTail = (g.dqueues qid).prev := by rw [hd.tail, hid, if_pos htail]
  constructor
  · intro h'
    exact htail'.symm.trans h'.tail
  · intro hprev
    refine ⟨⟨?_, fun x hx => absurd hx List.not_mem_nil⟩, htail'.trans hprev, ?_⟩
    · show g'.dqueuesHead = protoqIdInvalid
      rw [hd.head, hid, if_pos hhead, hlast]
    · rw [hd.count, h.count, List.length_singleton, List.length_nil]

/-- It was the first of several. -/
theorem Listed.disables_first (h : Listed g (qid :: (t ++ [x])))
    (hok : QueuesOk g (qid :: (t ++ [x])))
    (hd : Disables g g' qid) : Listed g' (t ++ [x]) ↔ (g.dqueues qid).prev ∉ t := by
  have hid := hok.id qid List.mem_cons_self
  obtain ⟨hqt, hnd⟩ := List.nodup_cons.mp hok.nodup
  have hvalid : ∀ y ∈ t ++ [x], y ≠ protoqIdInvalid := fun y hy =>
    hok.valid (List.mem_cons_of_mem qid hy)
  have hhead : g.dqueuesHead = qid := chain_head h.chain
  have hchain := chain_tail h.chain
  have htail : g.dqueuesTail = x := by
    rw [h.tail, ← List.cons_append, List.getLast?_concat]
    rfl
  have hxq : x ≠ qid := by
    intro heq
    exact hqt (by simp [heq])
  constructor
  · -- the list would end at `prev`
    intro h' hprev
    obtain ⟨a, b, rfl⟩ := List.append_of_mem hprev
    have hne := hvalid (g.dqueues qid).prev (by simp)
    have hcut : g'.nextOf (g.dqueues qid).prev = protoqIdInvalid := by
      rw [hd.next _ hne, if_pos (Or.inr rfl)]
    have hc := h'.chain
    rw [List.append_assoc, List.cons_append] at hc
    cases b with
    | nil =>
      have hnext := chain_next hc
      exact hvalid x (by simp) (hnext.symm.trans hcut)
    | cons y b =>
      have hnext := chain_next hc
      exact hvalid y (by simp) (hnext.symm.trans hcut)
  · intro hprev
    refine ⟨?_, ?_, ?_⟩
    · rw [hd.head, hid, if_pos hhead]
      refine chain_congr (fun y hy => ?_) hchain
      rw [hd.next y (hvalid y hy)]
      split
      · next hor =>
        -- only the last queue may lose its `next`, which it does not have
        have hyx : y = x := by
          rcases hor with hor | hor
          · exact absurd (hor ▸ hy) hqt
          · rcases List.mem_append.mp hy with hyt | hyx
            · exact absurd (hor ▸ hyt) hprev
            · exact List.mem_singleton.mp hyx
        rw [hyx]
        exact (chain_last hchain).symm
      · rfl
    · rw [hd.tail, hid, htail, if_neg hxq, List.getLast?_concat]
      rfl
    · have hlen := hok.length_le
      unfold maxProtoQueues at hlen
      rw [List.length_cons] at hlen
      rw [hd.count, h.count, List.length_cons]
      omega

/-- It was the last of several. -/
theorem Listed.disables_last (h : Listed g (t ++ [x] ++ [qid]))
    (hok : QueuesOk g (t ++ [x] ++ [qid]))
    (hd : Disables g g' qid) : Listed g' (t ++ [x]) ↔ (g.dqueues qid).prev = x := by
  have hid := hok.id qid (by simp)
  obtain ⟨hnd, -, hdis⟩ := List.nodup_append.mp hok.nodup
  have hq : qid ∉ t ++ [x] := fun hm => hdis qid hm qid (List.mem_singleton_self qid) rfl
  have hvalid : ∀ y ∈ t ++ [x], y ≠ protoqIdInvalid := fun y hy =>
    hok.valid (List.mem_append_left [qid] hy)
  have htail : g.dqueuesTail = qid := by
    rw [h.tail, List.getLast?_concat]
    rfl
  have htail' : g'.dqueuesTail = (g.dqueues qid).prev := by rw [hd.tail, hid, if_pos htail]
  constructor
  · intro h'
    rw [← htail', h'.tail, List.getLast?_concat]
    rfl
  · intro hprev
    obtain ⟨m, hseg, hm, -⟩ := seg_append.mp h.chain.seg
    rw [hm] at hseg
    have hhead : g.dqueuesHead ≠ qid := by
      have hmem : g.dqueuesHead ∈ t ++ [x] := by
        have hhead := chain_head h.chain
        cases t with
        | nil => exact hhead ▸ List.mem_cons_self
        | cons y t => exact hhead ▸ List.mem_cons_self
      exact fun heq => hq (heq ▸ hmem)
    have hxt : x ∉ t := by
      have := (List.nodup_append.mp hnd).2.2
      exact fun hxm => this x hxm x (List.mem_singleton_self x) rfl
    refine ⟨⟨?_, hvalid⟩, ?_, ?_⟩
    · rw [hd.head, hid, if_neg hhead]
      refine seg_congr (fun y hy => ?_) (seg_redirect_last protoqIdInvalid hxt hseg)
      have hyq : y ≠ qid := fun heq => hq (heq ▸ hy)
      rw [hd.next y (hvalid y hy), hprev]
      unfold redirect
      simp only [hyq, false_or]
    · rw [htail', hprev, List.getLast?_concat]
      rfl
    · have hlen := hok.length_le
      unfold maxProtoQueues at hlen
      rw [List.length_append, List.length_singleton] at hlen
      rw [hd.count, h.count, List.length_append, List.length_singleton]
      omega

/-- It was in the middle: the queue in front of it is not joined to the one
behind it. -/
theorem Listed.disables_middle {p y : Nat} (h : Listed g (t ++ [p] ++ qid :: y :: l₂))
    (hok : QueuesOk g (t ++ [p] ++ qid :: y :: l₂)) (hd : Disables g g' qid) :
    ¬ Listed g' (t ++ [p] ++ y :: l₂) := by
  intro h'
  have hpq : g.nextOf p = qid := by
    have hc := h.chain
    rw [List.append_assoc] at hc
    exact chain_next hc
  have hpy : g'.nextOf p = y := by
    have hc := h'.chain
    rw [List.append_assoc] at hc
    exact chain_next hc
  rw [hd.next p (hok.valid (by simp))] at hpy
  split at hpy
  · exact hok.valid (q := y) (by simp) hpy.symm
  · rw [hpq] at hpy
    have hnd := (List.nodup_append.mp hok.nodup).2.1
    rw [hpy] at hnd
    simp at hnd

/-- **A disable leaves the list of the others exactly if its queue is
removable.** -/
theorem Listed.disables_iff (h : Listed g l) (hok : QueuesOk g l) (hq : qid ∈ l)
    (hd : Disables g g' qid) : Listed g' (l.erase qid) ↔ Removable g l qid := by
  obtain ⟨l₁, l₂, rfl⟩ := List.append_of_mem hq
  have hq₁ : qid ∉ l₁ := by
    have := (List.nodup_append.mp hok.nodup).2.2
    exact fun hm => this qid hm qid List.mem_cons_self rfl
  have hq₂ : qid ∉ l₂ := (List.nodup_cons.mp (List.nodup_append.mp hok.nodup).2.1).1
  unfold Removable
  rw [List.erase_append_right _ hq₁, List.erase_cons_head]
  rcases List.eq_nil_or_concat l₁ with rfl | ⟨t, p, rfl⟩
  · rcases List.eq_nil_or_concat l₂ with rfl | ⟨t, x, rfl⟩
    · rw [List.nil_append] at *
      rw [h.disables_only hok hd]
      exact ⟨fun hprev => ⟨Or.inl rfl, fun _ => List.not_mem_nil, fun _ => hprev⟩,
        fun hr => hr.2.2 rfl⟩
    · rw [List.concat_eq_append, List.nil_append] at *
      rw [List.nil_append, h.disables_first hok hd]
      have hx : x ≠ qid := fun heq => hq₂ (by simp [heq])
      have hlast : (qid :: (t ++ [x])).getLast? = some x := by
        rw [← List.cons_append, List.getLast?_concat]
      rw [List.dropLast_concat, hlast]
      exact ⟨fun hprev => ⟨Or.inl rfl, fun _ => hprev, fun heq => absurd (Option.some.inj heq) hx⟩,
        fun hr => hr.2.1 rfl⟩
  · rw [List.concat_eq_append] at *
    cases l₂ with
    | nil =>
      rw [List.append_nil, h.disables_last hok hd]
      have hlast : (t ++ [p] ++ [qid]).getLast? = some qid := List.getLast?_concat
      have hprev : (t ++ [p]).getLast?.getD protoqIdInvalid = p := by
        rw [List.getLast?_concat]
        rfl
      have hfirst : (t ++ [p] ++ [qid]).head? ≠ some qid := by
        cases t with
        | nil => exact fun heq => hq₁ (by simp_all)
        | cons y t => exact fun heq => hq₁ (by simp_all)
      rw [hprev]
      exact ⟨fun hp => ⟨Or.inr hlast, fun hf => absurd hf hfirst, fun _ => hp⟩,
        fun hr => hr.2.2 hlast⟩
    | cons y l₂ =>
      refine iff_of_false (h.disables_middle hok hd) fun hr => ?_
      rcases hr.1 with hfirst | hlast
      · cases t with
        | nil => exact hq₁ (by simp_all)
        | cons z t => exact hq₁ (by simp_all)
      · rw [List.getLast?_append_cons, List.getLast?_cons_cons] at hlast
        exact hq₂ (List.mem_of_getLast? hlast)

end disables

/-! ## Round robin -/

/-- A rotation moves the head to the tail, as a step on the list. -/
theorem Listed.rotate (h : Listed g l) (hok : QueuesOk g l) (hne : l ≠ []) :
    Listed g.rotateHead (l.rotate 1) := by
  cases l with
  | nil => exact absurd rfl hne
  | cons q t =>
    rw [List.rotate_cons_succ, List.rotate_zero]
    exact h.rotates hok (rotateHead_rotates g)

theorem QueuesOk.rotate (hok : QueuesOk g l) : QueuesOk g.rotateHead (l.rotate 1) := by
  refine ⟨List.nodup_rotate.mpr hok.nodup, fun q hq => ?_, fun q hq => ?_⟩
  · exact hok.lt q (List.mem_rotate.mp hq)
  · rw [(rotateHead_rotates g).id]
    exact hok.id q (List.mem_rotate.mp hq)

theorem Listed.rotate_iterate (h : Listed g l) (hok : QueuesOk g l) (hne : l ≠ []) (k : Nat) :
    Listed (GuestFast.rotateHead^[k] g) (l.rotate k) ∧
      QueuesOk (GuestFast.rotateHead^[k] g) (l.rotate k) := by
  induction k with
  | zero =>
    rw [List.rotate_zero]
    exact ⟨h, hok⟩
  | succ k ih =>
    have hne' : l.rotate k ≠ [] := fun hnil => hne (List.rotate_eq_nil_iff.mp hnil)
    rw [Function.iterate_succ_apply', ← List.rotate_rotate]
    exact ⟨ih.1.rotate ih.2 hne', ih.2.rotate⟩

/-- The head is the first queue of the list. -/
theorem Listed.head_mem (h : Listed g l) (hne : l ≠ []) : g.dqueuesHead ∈ l := by
  have hhead := chain_head h.chain
  cases l with
  | nil => exact absurd rfl hne
  | cons q t => exact hhead ▸ List.mem_cons_self

/-- **No queue is passed over**: after as many rotations as there are queues
in front of it, a queue is at the head. -/
theorem Listed.reached (h : Listed g l) (hok : QueuesOk g l) (hq : q ∈ l) :
    ∃ k, k < l.length ∧ (GuestFast.rotateHead^[k] g).dqueuesHead = q := by
  obtain ⟨k, hk, hget⟩ := List.getElem_of_mem hq
  refine ⟨k, hk, ?_⟩
  have hhead := chain_head (h.rotate_iterate hok (List.ne_nil_of_mem hq) k).1.chain
  rw [hhead, List.head?_rotate hk, List.getElem?_eq_getElem hk, hget]
  rfl

end guest

/-! ## Runs -/

/-- The context of a core, and the enabled queues of one of its guests as the
messages and rotations say, in round-robin order. -/
structure EnabledSt where
  ctx : FastCtx
  enabled : List Nat

/-- What the core does to the list of a guest. -/
inductive ListAct
  | enable (protoType qid off nelems elsize : Nat)
  | disable (qid : Nat)
  | rotate

def listStep (gid : Nat) (s : EnabledSt) : ListAct → EnabledSt × Unit
  | .enable protoType qid off nelems elsize =>
    ({ ctx := handleEnableq s.ctx gid protoType qid off nelems elsize
       enabled := s.enabled ++ [qid] }, ())
  | .disable qid =>
    ({ ctx := handleDisableq s.ctx gid qid, enabled := s.enabled.erase qid }, ())
  | .rotate =>
    ({ ctx := s.ctx.setGuest gid (s.ctx.guests gid).rotateHead
       enabled := s.enabled.rotate 1 }, ())

/-- A queue is enabled that is not, one is disabled that is enabled, and the
poll loop rotates when there is one. -/
def ListOk (s : EnabledSt) : ListAct → Prop
  | .enable _ qid _ _ _ => qid < maxProtoQueues ∧ qid ∉ s.enabled
  | .disable qid => qid ∈ s.enabled
  | .rotate => s.enabled ≠ []

instance (s : EnabledSt) (a : ListAct) : Decidable (ListOk s a) := by
  cases a <;> unfold ListOk <;> infer_instance

/-- A disable finds its queue removable. -/
def KeepsList (gid : Nat) (s : EnabledSt) : ListAct → Prop
  | .disable qid => Removable (s.ctx.guests gid) s.enabled qid
  | .enable .. | .rotate => True

instance (gid : Nat) (s : EnabledSt) (a : ListAct) : Decidable (KeepsList gid s a) := by
  cases a <;> unfold KeepsList <;> infer_instance

section run

variable {gid : Nat} {s : EnabledSt} {a : ListAct}

/-- The queues of the list keep their ids, whatever the list looks like. -/
theorem QueuesOk.step (hok : QueuesOk (s.ctx.guests gid) s.enabled) (ha : ListOk s a) :
    QueuesOk ((listStep gid s a).1.ctx.guests gid) (listStep gid s a).1.enabled := by
  cases a with
  | enable protoType qid off nelems elsize =>
    have he := handleEnableq_enables s.ctx gid protoType qid off nelems elsize
    refine ⟨?_, fun q hq => ?_, fun q hq => ?_⟩
    · refine List.nodup_append.mpr ⟨hok.nodup, List.nodup_singleton qid, fun x hx y hy heq => ?_⟩
      exact ha.2 (List.mem_singleton.mp hy ▸ heq ▸ hx)
    · rcases List.mem_append.mp hq with hq | hq
      · exact hok.lt q hq
      · rw [List.mem_singleton.mp hq]
        exact ha.1
    · refine (he.id q).trans ?_
      split
      · next heq => exact heq.symm
      · next hne =>
        rcases List.mem_append.mp hq with hq | hq
        · exact hok.id q hq
        · exact absurd (List.mem_singleton.mp hq) hne
  | disable qid =>
    have hd := handleDisableq_disables s.ctx gid qid
    refine ⟨hok.nodup.erase qid, fun q hq => hok.lt q (List.mem_of_mem_erase hq), fun q hq => ?_⟩
    exact (hd.id q).trans (hok.id q (List.mem_of_mem_erase hq))
  | rotate =>
    show QueuesOk ((s.ctx.setGuest gid _).guests gid) (s.enabled.rotate 1)
    rw [FastCtx.setGuest_same]
    exact hok.rotate

/-- **One step keeps the list exactly if its queue is removable**, where it is
a disable. -/
theorem Listed.step_iff (h : Listed (s.ctx.guests gid) s.enabled)
    (hok : QueuesOk (s.ctx.guests gid) s.enabled) (ha : ListOk s a) :
    Listed ((listStep gid s a).1.ctx.guests gid) (listStep gid s a).1.enabled ↔
      KeepsList gid s a := by
  cases a with
  | enable protoType qid off nelems elsize =>
    exact iff_of_true (h.enables hok ha.2 ha.1 (handleEnableq_enables ..)) trivial
  | disable qid => exact h.disables_iff hok ha (handleDisableq_disables ..)
  | rotate =>
    refine iff_of_true ?_ trivial
    show Listed ((s.ctx.setGuest gid _).guests gid) (s.enabled.rotate 1)
    rw [FastCtx.setGuest_same]
    exact h.rotate hok ha

/-- A guest starts without queues. -/
theorem newGuest_listed {ctx : FastCtx} {shmLen : Nat} (hgid : gid < chamelioMaxGuests) :
    Listed ((handleNewGuest ctx gid shmLen).guests gid) [] := by
  unfold handleNewGuest
  rw [if_neg (Nat.not_le.mpr hgid)]
  dsimp only
  refine ⟨⟨?_, fun x hx => absurd hx List.not_mem_nil⟩, ?_, ?_⟩ <;>
    simp [FastCtx.setGuest, Seg]

end run

/-- **The list of enabled queues.** In every run of a core from a new guest in
which each disable finds its queue removable, with enables, disables and
rotations in any order:
* the list from `dqueues_head` over `next` is the enabled queues in round-robin
  order, each once, `dqueues_tail` is its last element and `ndqueues` its
  length;
* the queue polled is an enabled one, and every enabled queue is at the head
  after fewer rotations than there are enabled queues;
* and the next step keeps this up exactly if it is no disable or its queue is
  removable. -/
theorem enabled_queues_listed {ctx : FastCtx} {gid shmLen : Nat} (hgid : gid < chamelioMaxGuests)
    {log : List Unit} {s : EnabledSt}
    (hr : Run (fun s a => ListOk s a ∧ KeepsList gid s a) (listStep gid)
      { ctx := handleNewGuest ctx gid shmLen, enabled := [] } log s) :
    (Listed (s.ctx.guests gid) s.enabled ∧ s.enabled.Nodup) ∧
      (s.enabled ≠ [] → (s.ctx.guests gid).dqueuesHead ∈ s.enabled) ∧
      (∀ q ∈ s.enabled, ∃ k, k < s.enabled.length ∧
        (GuestFast.rotateHead^[k] (s.ctx.guests gid)).dqueuesHead = q) ∧
      ∀ a, ListOk s a →
        (Listed ((listStep gid s a).1.ctx.guests gid) (listStep gid s a).1.enabled ↔
          KeepsList gid s a) := by
  have hinv : Listed (s.ctx.guests gid) s.enabled ∧ QueuesOk (s.ctx.guests gid) s.enabled := by
    refine hr.inv (I := fun _ s => Listed (s.ctx.guests gid) s.enabled ∧
      QueuesOk (s.ctx.guests gid) s.enabled) ⟨newGuest_listed hgid, ?_⟩ ?_
    · exact ⟨List.nodup_nil, fun q hq => absurd hq List.not_mem_nil,
        fun q hq => absurd hq List.not_mem_nil⟩
    · intro log s a ⟨h, hok⟩ ⟨ha, hkeep⟩
      exact ⟨(h.step_iff hok ha).mpr hkeep, hok.step ha⟩
  obtain ⟨h, hok⟩ := hinv
  exact ⟨⟨h, hok.nodup⟩, h.head_mem, fun q hq => h.reached hok hq, fun a ha => h.step_iff hok ha⟩

/-- Guest 0 of a core, just registered. -/
def freshGuest : EnabledSt where
  ctx := handleNewGuest blankCore 0 4096
  enabled := []

/-- Three queues are enabled, the first is rotated to the back and the next
head is disabled. -/
theorem enabled_queues_listed_rotated :
    ∃ log s, Run (fun s a => ListOk s a ∧ KeepsList 0 s a) (listStep 0) freshGuest log s ∧
      s.enabled = [3, 1] ∧ Listed (s.ctx.guests 0) [3, 1] := by
  have hrun := Run.execOk [.enable 1 1 0 8 64, .enable 1 2 512 8 64, .enable 1 3 1024 8 64,
    .rotate, .disable 2] (Run.nil : Run (fun s a => ListOk s a ∧ KeepsList 0 s a) (listStep 0)
      freshGuest [] _) (by decide +kernel)
  exact ⟨_, _, hrun, rfl, (enabled_queues_listed (by decide) hrun).1.1⟩

/-- Queues 1, 2 and 3 are enabled and 2 is disabled: the list ends behind 1, and
3 is never polled again. -/
theorem enabled_queues_cut :
    ¬ ∀ (ctx : FastCtx) (gid shmLen : Nat), gid < chamelioMaxGuests → ∀ log s,
      Run ListOk (listStep gid) { ctx := handleNewGuest ctx gid shmLen, enabled := [] } log s →
      Listed (s.ctx.guests gid) s.enabled := by
  intro h
  have hrun := Run.execOk [.enable 1 1 0 8 64, .enable 1 2 512 8 64, .enable 1 3 1024 8 64,
    .disable 2] (Run.nil : Run ListOk (listStep 0) freshGuest [] _) (by decide +kernel)
  have hlist := (h blankCore 0 4096 (by decide) _ _ hrun).chain
  exact absurd hlist.seg.2.1 (by decide +kernel)

end Chamelio.Fast
