import Chamelio.Tcp.KidNext

/-!
# Listener backlogs along a run

`BacklogInv`: every listener's counters and ring are those of its children
(`ListenerOk`). Each move of a child keeps it, with one exception: a reset,
a FIN or a close that hits a child in the ready ring empties its cell and
takes it off `backlog_used`, while `ready_used` still counts it.
-/

namespace Chamelio.Tcp

open Chamelio.Lib Chamelio.Util Chamelio.Pkt Chamelio.Fast

/-- An open child of listener `k`. -/
def kidOf (ctx : TcpSlowCtx) (k i : Nat) : Bool :=
  decide ((ctx.kid i).of k ∧ (ctx.kid i).state ≠ .closed)

/-- A child that waits to be accepted. -/
def readyOf (ctx : TcpSlowCtx) (k i : Nat) : Bool :=
  decide ((ctx.kid i).of k ∧ (ctx.kid i).state = .acceptPending)

structure BacklogInv (ctx : TcpSlowCtx) : Prop where
  marked : Marked ctx
  listener : ∀ k, ListenerOk (ctx.listeners k) ctx.nSocks (kidOf ctx k) (readyOf ctx k)

theorem SlowInit.backlog {ctx : TcpSlowCtx} (h : SlowInit ctx) : BacklogInv ctx := by
  refine ⟨h.marked, ?_⟩
  intro k
  refine .inr ⟨h.listeners k, ?_⟩
  intro i hi
  rw [h.nSocks] at hi
  exact absurd hi (Nat.not_lt_zero i)

/-! ## Reading the children -/

section reading

variable {a b : TcpSlowCtx} {k i : Nat}

theorem kidOf_congr (h : b.kid i = a.kid i) : kidOf b k i = kidOf a k i := by
  unfold kidOf
  rw [h]

theorem readyOf_congr (h : b.kid i = a.kid i) : readyOf b k i = readyOf a k i := by
  unfold readyOf
  rw [h]

/-- What is not marked by `k` is no child of `k`. -/
theorem kidOf_not (h : ¬(a.kid i).of k) : kidOf a k i = false :=
  decide_eq_false (fun hc => h hc.1)

theorem readyOf_not (h : ¬(a.kid i).of k) : readyOf a k i = false :=
  decide_eq_false (fun hc => h hc.1)

theorem not_of_free {x : Kid} (h : x.mark = idInvalid) : ¬x.of k := fun hc => hc.1 h

theorem not_of_other {x : Kid} {k' : Nat} (h : x.of k) (hne : k' ≠ k) : ¬x.of k' :=
  fun hc => hne (hc.2.symm.trans h.2)

/-- A socket that keeps its mark and has no reason to count. -/
theorem stay_kidOf (h : KidStay (a.kid i) (b.kid i)) :
    kidOf b k i = kidOf a k i ∧ readyOf b k i = readyOf a k i := by
  have hof : (b.kid i).of k ↔ (a.kid i).of k := by
    unfold Kid.of
    rw [h.mark]
  rcases h.state with hst | hfree
  · unfold kidOf readyOf
    rw [hst]
    simp only [hof, and_self]
  · have ha : ¬(a.kid i).of k := not_of_free hfree
    have hb : ¬(b.kid i).of k := fun hc => ha (hof.mp hc)
    rw [kidOf_not ha, kidOf_not hb, readyOf_not ha, readyOf_not hb]
    exact ⟨rfl, rfl⟩

end reading

/-! ## Each move -/

section moves

variable {a b : TcpSlowCtx}

theorem BacklogInv.kids (h : BacklogInv a) (hs : KidsSame a b) : BacklogInv b := by
  refine ⟨h.marked.kids hs, ?_⟩
  intro k
  rw [hs.listeners, hs.nSocks]
  exact (h.listener k).congr (fun i hi => (stay_kidOf (hs.kid i hi)).1)
    (fun i hi => (stay_kidOf (hs.kid i hi)).2)

/-- The listeners other than `k`, when the socket that changed is none of
their children. -/
theorem BacklogInv.others {i k : Nat} {x : Kid} {ls : Nat → Listener} (h : BacklogInv a)
    (hat : KidAt a b i x ls) (hk : ls k = a.listeners k) (hold : ¬(a.kid i).of k)
    (hnew : ¬x.of k) : ListenerOk (b.listeners k) b.nSocks (kidOf b k) (readyOf b k) := by
  have hfalse : i < a.nSocks → kidOf b k i = kidOf a k i ∧ readyOf b k i = readyOf a k i := by
    intro hi
    have hx : ¬(b.kid i).of k := by
      rw [hat.kid i hi, if_pos rfl]
      exact hnew
    rw [kidOf_not hold, kidOf_not hx, readyOf_not hold, readyOf_not hx]
    exact ⟨rfl, rfl⟩
  have hsame : ∀ j, j < a.nSocks → kidOf b k j = kidOf a k j ∧ readyOf b k j = readyOf a k j := by
    intro j hj
    by_cases hji : j = i
    · rw [hji] at hj ⊢
      exact hfalse hj
    · have hkid := (hat.kid j hj).trans (if_neg hji)
      exact ⟨kidOf_congr hkid, readyOf_congr hkid⟩
  rw [hat.listener, hk, hat.nSocks]
  exact (h.listener k).congr (fun j hj => (hsame j hj).1) (fun j hj => (hsame j hj).2)

/-- The sockets before the new one. -/
theorem KidNew.old {x : Kid} {ls : Nat → Listener} {k j : Nat} (hn : KidNew a b x ls)
    (hj : j < a.nSocks) : kidOf b k j = kidOf a k j ∧ readyOf b k j = readyOf a k j := by
  have hkid := (hn.kid j (by omega)).trans (if_neg (by omega))
  exact ⟨kidOf_congr hkid, readyOf_congr hkid⟩

theorem KidNew.at {x : Kid} {ls : Nat → Listener} (hn : KidNew a b x ls) :
    b.kid a.nSocks = x := (hn.kid _ (Nat.lt_succ_self _)).trans (if_pos rfl)

/-- A listener whose children do not grow. -/
theorem BacklogInv.grow {x : Kid} {ls : Nat → Listener} {k : Nat} (h : BacklogInv a)
    (hn : KidNew a b x ls) (hk : ls k = a.listeners k)
    (hx : ¬(x.of k ∧ x.state ≠ .closed)) :
    ListenerOk (b.listeners k) b.nSocks (kidOf b k) (readyOf b k) := by
  rw [hn.listener, hk, hn.nSocks]
  refine (h.listener k).grow (fun j hj => (hn.old hj).1) (fun j hj => (hn.old hj).2) ?_ ?_
  · unfold kidOf
    rw [hn.at]
    exact decide_eq_false hx
  · unfold readyOf
    rw [hn.at]
    apply decide_eq_false
    intro hc
    refine hx ⟨hc.1, ?_⟩
    rw [hc.2]
    exact SockState.noConfusion

theorem withListener_ne (a : TcpSlowCtx) {k k' : Nat} (l : Listener) (h : k' ≠ k) :
    a.withListener k l k' = a.listeners k' := if_neg h

theorem BacklogInv.arrived {k : Nat} (h : BacklogInv a) (hm : KidMove a b (.arrived k)) :
    BacklogInv b := by
  refine ⟨h.marked.move hm, ?_⟩
  obtain ⟨m, hm0, hmk, hact, hroom, hn⟩ := hm
  intro j
  by_cases hj : j = k
  · rw [hj, hn.listener, hn.nSocks, show a.withListener k _ k = _ from if_pos rfl]
    refine (h.listener k).arrive hact hroom (fun i hi => (hn.old hi).1) (fun i hi => (hn.old hi).2)
      ?_ ?_
    · unfold kidOf
      rw [hn.at]
      exact decide_eq_true ⟨⟨hm0, hmk⟩, SockState.noConfusion⟩
    · unfold readyOf
      rw [hn.at]
      exact decide_eq_false (fun hc => SockState.noConfusion hc.2)
  · refine h.grow hn (withListener_ne a _ hj) ?_
    intro hc
    exact hj (hc.1.2.symm.trans hmk)

theorem BacklogInv.readied {k i : Nat} (h : BacklogInv a) (hm : KidMove a b (.readied k i)) :
    BacklogInv b := by
  refine ⟨h.marked.move hm, ?_⟩
  obtain ⟨hi, hof, hst, -, hat⟩ := hm
  have hkid : b.kid i = { a.kid i with state := .acceptPending, kind := .none } :=
    (hat.kid i hi).trans (if_pos rfl)
  have hbof : (b.kid i).of k := by
    rw [hkid]
    exact hof
  intro j
  by_cases hj : j = k
  · rw [hj, hat.listener, hat.nSocks, show a.withListener k _ k = _ from if_pos rfl]
    refine ((h.listener k).push h.marked.base.room hi ?_ ?_ ?_ ?_ ?_).2.2
    · exact decide_eq_true ⟨hof, by rw [hst]; exact SockState.noConfusion⟩
    · exact decide_eq_false (fun hc => by rw [hst] at hc; cases hc.2)
    · exact decide_eq_true ⟨hbof, by rw [hkid]⟩
    · intro j' hj'
      by_cases hji : j' = i
      · rw [hji]
        unfold kidOf
        rw [decide_eq_true ⟨hbof, by rw [hkid]; exact SockState.noConfusion⟩,
          decide_eq_true ⟨hof, by rw [hst]; exact SockState.noConfusion⟩]
      · exact kidOf_congr ((hat.kid j' hj').trans (if_neg hji))
    · intro j' hj' hji
      exact readyOf_congr ((hat.kid j' hj').trans (if_neg hji))
  · exact h.others hat (withListener_ne a _ hj) (not_of_other hof hj) (not_of_other hof hj)

theorem BacklogInv.gone {i : Nat} (h : BacklogInv a) (hm : KidMove a b (.gone i false)) :
    BacklogInv b := by
  refine ⟨h.marked.move hm, ?_⟩
  obtain ⟨hi, hlive, hready, hat⟩ := hm
  intro k
  have hnew : ¬kidClosed.of k := not_of_free rfl
  by_cases hof : (a.kid i).of k
  · -- A child of `k` that is still opening.
    have hkid : b.kid i = kidClosed := (hat.kid i hi).trans (if_pos rfl)
    have hopen : (a.kid i).state ≠ .closed := hlive.resolve_left hof.1
    have hnr : (a.kid i).state ≠ .acceptPending :=
      fun hst => Bool.false_ne_true (hready.mpr ⟨hof.1, hst⟩)
    rw [hat.listener, hat.nSocks, show detachedAt a i k = _ from if_pos ⟨hof.1, hof.2.symm⟩]
    refine (h.listener k).leave h.marked.base.room hi (decide_eq_true ⟨hof, hopen⟩)
      (decide_eq_false (fun hc => hnr hc.2)) ?_ ?_ ?_
    · apply kidOf_not
      rw [hkid]
      exact hnew
    · intro j hj hji
      exact kidOf_congr ((hat.kid j hj).trans (if_neg hji))
    · intro j hj
      by_cases hji : j = i
      · rw [hji]
        have hb : ¬(b.kid i).of k := by
          rw [hkid]
          exact hnew
        rw [readyOf_not hb]
        exact (decide_eq_false (fun hc => hnr hc.2)).symm
      · exact readyOf_congr ((hat.kid j hj).trans (if_neg hji))
  · refine h.others hat (if_neg ?_) hof hnew
    intro hc
    exact hof ⟨hc.1, hc.2.symm⟩

/-- Without empty cells in its ring, an accept takes the first child. -/
theorem BacklogInv.not_skipped {k : Nat} (h : BacklogInv a) : ¬KidMove a b (.skipped k) := by
  rintro ⟨hact, hused, hcell, -⟩
  rcases h.listener k with ⟨q, ho⟩ | ⟨hz, -⟩
  · cases q with
    | nil =>
      apply hused
      apply UInt32.toNat.inj
      rw [ho.used]
      rfl
    | cons x q =>
      obtain ⟨hx, -, i, hi, he, -⟩ := ho.accept h.marked.base.room
      rw [hcell, he] at hx
      exact ofNat_ne_idInvalid (h.marked.base.lt hi) hx.symm
  · rw [hz] at hact
    cases hact

theorem BacklogInv.taken {k i : Nat} (h : BacklogInv a) (hm : KidMove a b (.taken k i)) :
    BacklogInv b := by
  refine ⟨h.marked.move hm, ?_⟩
  obtain ⟨⟨hi, hof, hst⟩, hact, hused, hcell, hat⟩ := hm
  have hkid : b.kid i = { a.kid i with mark := idInvalid, state := .established } :=
    (hat.kid i hi).trans (if_pos rfl)
  have hfree : ∀ j, ¬(b.kid i).of j := by
    intro j
    rw [hkid]
    exact not_of_free rfl
  intro j
  by_cases hj : j = k
  · rw [hj, hat.listener, hat.nSocks, show a.withListener k _ k = _ from if_pos rfl]
    rcases h.listener k with ⟨q, ho⟩ | ⟨hz, -⟩
    · cases q with
      | nil =>
        refine absurd (UInt32.toNat.inj ?_) hused
        rw [ho.used]
        rfl
      | cons x q =>
        obtain ⟨hx, -, i', hi', he, -, hrest⟩ := ho.accept h.marked.base.room
        have hii : i' = i := by
          rw [hcell, he] at hx
          exact ofNat_sock_inj (h.marked.base.lt hi') (h.marked.base.lt hi) hx.symm
        rw [hii] at hrest
        refine .inl ⟨q, hrest _ _ (kidOf_not (hfree k)) (readyOf_not (hfree k)) ?_ ?_⟩
        · intro j' hj' hji
          exact kidOf_congr ((hat.kid j' hj').trans (if_neg hji))
        · intro j' hj' hji
          exact readyOf_congr ((hat.kid j' hj').trans (if_neg hji))
    · rw [hz] at hact
      cases hact
  · exact h.others hat (withListener_ne a _ hj) (not_of_other hof hj) (not_of_free rfl)

theorem BacklogInv.opened {k : Nat} (h : BacklogInv a) (hm : KidMove a b (.opened k)) :
    BacklogInv b := by
  refine ⟨h.marked.move hm, ?_⟩
  obtain ⟨hlt, hfree, hinact, backlog, hshort, hat⟩ := hm
  intro j
  have hold : ¬(a.kid k).of j := not_of_free hfree
  by_cases hj : j = k
  · rcases h.listener k with ⟨q, ho⟩ | ⟨hz, hno⟩
    · rw [ho.active] at hinact
      cases hinact
    · have hb : ¬(b.kid k).of k := by
        rw [hat.kid k hlt, if_pos rfl]
        exact not_of_free hfree
      have hnone : ∀ i, i < a.nSocks → kidOf b k i = false := by
        intro i hi
        by_cases hik : i = k
        · rw [hik]
          exact kidOf_not hb
        · rw [kidOf_congr ((hat.kid i hi).trans (if_neg hik))]
          exact hno i hi
      rw [hj, hat.listener, hat.nSocks, show a.withListener k _ k = _ from if_pos rfl, hz]
      refine ListenerOk.openNew backlog hshort hnone ?_
      intro i hi
      apply decide_eq_false
      intro hc
      have hkid := of_decide_eq_false (hnone i hi)
      refine hkid ⟨hc.1, ?_⟩
      rw [hc.2]
      exact SockState.noConfusion
  · exact h.others hat (withListener_ne a _ hj) hold (not_of_free hfree)

theorem BacklogInv.shut {k : Nat} (h : BacklogInv a) (hm : KidMove a b (.shut k)) :
    BacklogInv b := by
  refine ⟨h.marked.move hm, ?_⟩
  obtain ⟨-, hn, hfree, hkid, hl⟩ := hm
  intro j
  by_cases hj : j = k
  · refine .inr ⟨by rw [hl, hj]; exact if_pos rfl, ?_⟩
    intro i hi
    rw [hn] at hi
    unfold kidOf
    rw [hkid i hi, hj]
    split
    · exact decide_eq_false (fun hc => hc.2 rfl)
    · next hno => exact decide_eq_false (fun hc => hno (.inl hc))
  · rw [hl, hn, show a.withListener k listenerZero j = _ from withListener_ne a _ hj]
    have hsame : ∀ i, i < a.nSocks → kidOf b j i = kidOf a j i ∧ readyOf b j i = readyOf a j i := by
      intro i hi
      have hki := hkid i hi
      split at hki
      · next hcl =>
        -- What was closed was no child of `j`.
        have hold : ¬(a.kid i).of j := by
          rcases hcl with ⟨hof, -⟩ | hik
          · exact not_of_other hof hj
          · rw [hik]
            exact not_of_free hfree
        have hnew : ¬(b.kid i).of j := by
          rw [hki]
          exact not_of_free rfl
        rw [kidOf_not hold, kidOf_not hnew, readyOf_not hold, readyOf_not hnew]
        exact ⟨rfl, rfl⟩
      · exact ⟨kidOf_congr hki, readyOf_congr hki⟩
    exact (h.listener j).congr (fun i hi => (hsame i hi).1) (fun i hi => (hsame i hi).2)

/-- Every move but the close of a ready child. -/
theorem BacklogInv.move {e : KidEv} (h : BacklogInv a) (hm : KidMove a b e)
    (he : ∀ i, e ≠ .gone i true) : BacklogInv b := by
  cases e with
  | grown =>
    refine ⟨h.marked.move hm, ?_⟩
    obtain ⟨x, hx, hn⟩ := hm
    intro k
    refine h.grow hn rfl ?_
    intro hc
    rcases hx with hx | ⟨hx, -⟩
    · exact hc.2 hx
    · exact hc.1.1 hx
  | arrived k => exact h.arrived hm
  | readied k i => exact h.readied hm
  | gone i ready =>
    cases ready with
    | false => exact h.gone hm
    | true => exact absurd rfl (he i)
  | skipped k => exact absurd hm h.not_skipped
  | taken k i => exact h.taken hm
  | opened k => exact h.opened hm
  | shut k => exact h.shut hm

theorem BacklogInv.moves {l : List KidEv} (h : BacklogInv a) (hm : KidMoves a l b)
    (hl : ∀ i, .gone i true ∉ l) : BacklogInv b := by
  induction hm with
  | nil => exact h
  | calm _ hs ih => exact (ih hl).kids hs
  | move _ hm ih =>
    refine (ih (fun i hi => hl i (List.mem_append_left _ hi))).move hm ?_
    rintro i rfl
    exact hl i (List.mem_append_right _ (List.mem_singleton.mpr rfl))

/-- The cells an accept reads. -/
theorem BacklogInv.cells (h : BacklogInv a) (k : Nat) : CellsWait a k := by
  rcases h.listener k with ⟨q, ho⟩ | ⟨hz, -⟩
  · refine ⟨?_, ?_⟩
    · intro hused
      rcases ho.ring.start with hs | hs
      · exact hs
      · have hfits := ho.ring.fits
        rw [← ho.used, hs] at hfits
        exact absurd (UInt32.toNat.inj (Nat.le_zero.mp hfits)) hused
    · intro pos hpos
      rcases ho.ring.rest pos hpos with he | ⟨j, hj, he⟩
      · exact .inl he
      · have hq : q[j]? = some (q.get ⟨j, hj⟩) := List.getElem?_eq_getElem hj
        obtain ⟨i, hi, hx, hr⟩ := (ho.mem _).mp (List.get_mem q ⟨j, hj⟩)
        have hr := of_decide_eq_true hr
        exact .inr ⟨i, by rw [he, ho.ring.cell j _ hq, hx], hi, hr.1, hr.2⟩
  · refine ⟨?_, ?_⟩
    · rw [hz]
      exact fun hc => absurd rfl hc
    · rw [hz]
      intro pos hpos
      exact absurd hpos (Nat.not_lt_zero pos)

end moves

/-! ## Every run -/

/-- No reset, no FIN and no close hits a child in a ready ring. -/
def BacklogOk (ctx : TcpSlowCtx) (act : SlowAct) : Prop :=
  Handed ctx act ∧ hitsReady ctx act = false

instance (ctx : TcpSlowCtx) (act : SlowAct) : Decidable (BacklogOk ctx act) :=
  inferInstanceAs (Decidable (_ ∧ _))

theorem BacklogInv.next {ctx : TcpSlowCtx} {act : SlowAct} (h : BacklogInv ctx)
    (hok : BacklogOk ctx act) : BacklogInv (slowNext ctx act) := by
  obtain ⟨l, hl, -⟩ := h.marked.handled hok.1 h.cells
  refine h.moves hl.moves ?_
  intro i hi
  exact Bool.false_ne_true (hok.2.symm.trans (hl.ready i hi))

/-- What the counters and the ring of a listener stand for. -/
structure BacklogTable (ctx : TcpSlowCtx) : Prop where
  /-- `backlog_used` counts the open children. -/
  used : ∀ k, (ctx.listeners k).backlogUsed.toNat = countBelow ctx.nSocks (kidOf ctx k)
  ready_le : ∀ k, (ctx.listeners k).readyUsed ≤ (ctx.listeners k).backlogUsed
  used_le : ∀ k, (ctx.listeners k).backlogUsed ≤ (ctx.listeners k).backlogLen
  slots : ∀ k, (ctx.listeners k).active = true →
    (ctx.listeners k).readySlots = some (ctx.listeners k).backlogLen.toNat
  /-- A child of an active listener that completes its handshake is pushed. -/
  push : ∀ i, i < ctx.nSocks → (ctx.sock i).state = .synRecv →
    (ctx.listeners (ctx.kid i).mark.toNat).active = true →
    ∀ rx, (sockPassiveEstablished ctx i rx).2 = true

theorem BacklogInv.table {ctx : TcpSlowCtx} (h : BacklogInv ctx) : BacklogTable ctx := by
  refine ⟨?_, ?_, ?_, ?_, ?_⟩
  · intro k
    rcases h.listener k with ⟨q, ho⟩ | ⟨hz, hno⟩
    · exact ho.count
    · rw [hz, countBelow_zero hno]
      rfl
  · intro k
    rcases h.listener k with ⟨q, ho⟩ | ⟨hz, -⟩
    · exact UInt32.le_iff_toNat_le.mpr ho.ready_le
    · rw [hz]
      exact UInt32.le_refl _
  · intro k
    rcases h.listener k with ⟨q, ho⟩ | ⟨hz, -⟩
    · exact UInt32.le_iff_toNat_le.mpr ho.le
    · rw [hz]
      exact UInt32.le_refl _
  · intro k hact
    rcases h.listener k with ⟨q, ho⟩ | ⟨hz, -⟩
    · exact ho.slots
    · rw [hz] at hact
      cases hact
  · intro i hi hst hact rx
    have hof : (ctx.kid i).of (ctx.kid i).mark.toNat :=
      ⟨h.marked.child_of_synRecv hi hst, rfl⟩
    have hkst : (ctx.kid i).state = .synRecv := hst
    rw [sockPassiveEstablished_eq h.marked.base hi, if_pos]
    refine ⟨hact, ?_⟩
    rcases h.listener (ctx.kid i).mark.toNat with ⟨q, ho⟩ | ⟨hz, -⟩
    · apply UInt32.lt_iff_toNat_lt.mpr
      refine ho.ready_lt hi (decide_eq_true ⟨hof, ?_⟩) (decide_eq_false ?_)
      · rw [hkst]
        exact SockState.noConfusion
      · rintro ⟨-, hc⟩
        rw [hkst] at hc
        cases hc
    · rw [hz] at hact
      cases hact

/-- **The backlogs, along every run** in which no reset, no FIN and no close
hits a child that waits in a ready ring. -/
theorem backlog_accounting {ctx₀ ctx : TcpSlowCtx} {log : List Unit} (h₀ : SlowInit ctx₀)
    (hr : Run BacklogOk slowStep ctx₀ log ctx) : BacklogTable ctx :=
  BacklogInv.table (Run.inv (I := fun _ ctx => BacklogInv ctx) h₀.backlog
    (fun _ _ _ h hok => h.next hok) hr)

section client

/-- A segment from port 40000 of `10.0.0.2` to the listener at port 1002. -/
def clientSegment (seq ack : UInt32) (flags : UInt16) : SlowAct :=
  .segment (ctlPktFill
    { localIp := 0x0a000002, localPort := 40000, remoteIp := 0x0a000001, remotePort := 1002
      seq, ack, flags, wnd := 1000, tsRecent := none }) 0

/-- A listener with room for one child, and the SYN of a client. -/
def listenRun : List SlowAct :=
  [.newSock 0 0 0, .bind 0 0 0 0x0a000001 1002 0, .listen 0 0 0 1 0 true,
    clientSegment 100 0 tcpSyn]

/-- The child of the client waits to be accepted. -/
theorem backlog_accounting_client :
    let ctx := (execAll slowStep (listenRun ++ [clientSegment 101 2 tcpAck]) freshSlow).2
    readyOf ctx 0 1 = true ∧ BacklogTable ctx :=
  ⟨by decide +kernel, backlog_accounting freshSlow_init
    (Run.execOk (listenRun ++ [clientSegment 101 2 tcpAck]) Run.nil (by decide +kernel))⟩

/-- The client completes its handshake and resets the connection before it
is accepted. -/
def resetRun : List SlowAct :=
  listenRun ++ [clientSegment 101 2 tcpAck, clientSegment 101 2 tcpRst]

/-- The reset leaves `ready_used` at one and `backlog_used` at zero. -/
theorem backlog_miscounted :
    ¬ ∀ (ctx₀ ctx : TcpSlowCtx) (log : List Unit), SlowInit ctx₀ →
      Run (fun _ _ => True) slowStep ctx₀ log ctx → BacklogTable ctx := by
  intro h
  have ht := h freshSlow _ _ freshSlow_init (Run.execAll resetRun Run.nil)
  exact absurd (ht.ready_le 0) (by decide +kernel)

end client

end Chamelio.Tcp
