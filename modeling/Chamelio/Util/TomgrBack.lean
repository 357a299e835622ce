import Chamelio.Util.TomgrQueue

/-!
# The back pointers of the timeout manager (`lib/utils/tomgr/tomgr.c`)

A live entry is found for `tomgr_cancel` by its `heap_idx`, the position of the
heap that names it. Whatever moves a heap node has to write it. `swap` writes
both, `tomgr_insert` and `tomgr_cancel` write that of the node they place, and
`tomgr_pop` does not: the last node goes to the root, and its entry keeps the
old position until `heapify_down` swaps the root with a child. Where no child
is earlier than the last node it stays, and a cancel of that entry fails.

So every live entry can be cancelled in every state of a run exactly when each
pop of the run moves its last node on (`PopRefreshes`).
-/

namespace Chamelio.Util

namespace Tomgr

variable {δ : Type}

/-- The entry that position `p` names has `p` in its `heap_idx`. -/
def PointsBack (m : Tomgr δ) (p : Nat) : Prop := (m.entries (m.heap p).idx).heapIdx = p

/-- Every position of the heap is pointed back to. -/
def Back (m : Tomgr δ) : Prop := ∀ p, p < m.size → m.PointsBack p

/-- What callers of `tomgr_cancel` rely on: each live entry knows its position,
and a cancel of it succeeds and takes it out, and nothing else. -/
structure CancelsEach (m : Tomgr δ) : Prop where
  position : ∀ e, m.Live e →
    (m.entries e).heapIdx < m.size ∧ (m.heap (m.entries e).heapIdx).idx = e
  cancel : ∀ e, m.Live e → (m.tomgrCancel e).2 = true ∧
    (∀ x, (m.tomgrCancel e).1.Live x ↔ m.Live x ∧ x ≠ e) ∧
    ∀ x, m.Live x → x ≠ e → ((m.tomgrCancel e).1.entries x).type = (m.entries x).type ∧
      ((m.tomgrCancel e).1.entries x).timeout = (m.entries x).timeout ∧
      ((m.tomgrCancel e).1.entries x).data = (m.entries x).data

/-- A pop that leaves no `heap_idx` behind: nothing is left, or a child of the
root is earlier than the last node, which then does not stay at the root. -/
def PopRefreshes (m : Tomgr δ) : Prop :=
  m.size ≤ 1 ∨ ∃ p, (p = 1 ∨ p = 2) ∧ p < m.size - 1 ∧
    (m.heap p).timeout < (m.heap (m.size - 1)).timeout

/-! ## Moving nodes -/

theorem swap_heapIdx (m : Tomgr δ) {a b : Nat} (hab : a ≠ b) (x : Nat) :
    ((m.swap a b).entries x).heapIdx =
      if x = (m.heap a).idx then b else if x = (m.heap b).idx then a else (m.entries x).heapIdx := by
  have hb : ((m.setHeap a (m.heap b)).setHeap b (m.heap a)).heap b = m.heap a := if_pos rfl
  have ha : ((m.setHeap a (m.heap b)).setHeap b (m.heap a)).heap a = m.heap b := by
    unfold setHeap
    dsimp only
    rw [if_neg hab, if_pos rfl]
  unfold swap
  simp only [setHeapIdx_heapIdx, setHeapIdx_heap, ha, hb]
  rfl

/-- **A swap refreshes both positions**, so it repairs one that was stale. -/
theorem swap_back {m : Tomgr δ} (h : m.Wf) {a b : Nat} (ha : a < m.size) (hb : b < m.size)
    (hab : a ≠ b) (hback : ∀ p, p < m.size → p ≠ a → m.PointsBack p) : (m.swap a b).Back := by
  intro p hp
  change p < m.size at hp
  unfold PointsBack
  rw [swap_heap, swap_heapIdx m hab]
  by_cases hpb : p = b
  · rw [if_pos hpb, if_pos rfl, hpb]
  · rw [if_neg hpb]
    by_cases hpa : p = a
    · rw [if_pos hpa, if_neg, if_pos rfl, hpa]
      exact fun he => hab (h.inj b a hb ha he).symm
    · rw [if_neg hpa, if_neg, if_neg]
      · exact hback p hp hpa
      · exact fun he => hpb (h.inj p b hp hb he)
      · exact fun he => hpa (h.inj p a hp ha he)

theorem heapifyUpLoop_back (n : Nat) {m : Tomgr δ} {idx : Nat} (hwf : m.Wf) (hlt : idx < m.size)
    (h : m.Back) : (heapifyUpLoop n m idx).Back := by
  induction n generalizing m idx with
  | zero => exact h
  | succ n ih =>
    rw [heapifyUpLoop]
    split
    · next hc =>
      have hpar := parent_lt hc.1
      have hp : parent idx < m.size := Nat.lt_trans hpar hlt
      refine ih ((swap_reordered hlt hp).wf hwf) hp ?_
      exact swap_back hwf hlt hp (by omega) fun p hps _ => h p hps
    · exact h

theorem heapifyDownLoop_back (n : Nat) {m : Tomgr δ} {idx : Nat} (hwf : m.Wf) (hlt : idx < m.size)
    (h : m.Back) : (heapifyDownLoop n m idx).Back := by
  induction n generalizing m idx with
  | zero => exact h
  | succ n ih =>
    rw [heapifyDownLoop]
    split
    · next hc =>
      have hp := smallest_lt hc
      refine ih ((swap_reordered hlt hp).wf hwf) hp ?_
      exact swap_back hwf hlt hp (fun he => hc he.symm) fun p hps _ => h p hps
    · exact h

/-! ## The operations -/

/-- A new node points back, before it is moved up. -/
theorem append_back {m : Tomgr δ} (h : m.Back) {idx : Nat} (hfresh : ¬ m.Live idx) (type : ToType)
    (timeout : UInt64) (data : δ) : (m.append idx type timeout data).Back := by
  intro p hp
  change p < m.size + 1 at hp
  show ((if (if p = m.size then (⟨idx, timeout⟩ : ToHeapEntry) else m.heap p).idx = idx then
    (⟨type, timeout, data, m.size⟩ : ToEntry δ)
    else m.entries (if p = m.size then (⟨idx, timeout⟩ : ToHeapEntry) else m.heap p).idx)).heapIdx = p
  by_cases hps : p = m.size
  · rw [if_pos hps, if_pos rfl, hps]
  · rw [if_neg hps, if_neg fun he => hfresh ⟨p, by omega, he⟩]
    exact h p (by omega)

theorem tomgrInsert_back {m m' : Tomgr δ} (hwf : m.Wf) (h : m.Back) {type : ToType}
    {timeout : UInt64} {data : δ} {e : Nat}
    (hins : m.tomgrInsert type timeout data = (m', some e)) : m'.Back := by
  have hin := tomgrInsert_some hwf hins
  unfold tomgrInsert at hins
  split at hins
  · cases hins
  next hfull =>
  split at hins
  · cases hins
  next idx hfree =>
  obtain ⟨rfl, rfl⟩ := Prod.mk.inj hins |>.imp id Option.some.inj
  obtain ⟨hidx, -⟩ := findFreeFrom_some hfree
  have happ := append_wf hwf type timeout data (by omega) (show idx < tomgrSize by omega) hin.fresh
  exact heapifyUpLoop_back m.size happ (Nat.lt_succ_self m.size)
    (append_back h hin.fresh type timeout data)

/-- While `tomgr_cancel` puts the heap in order, every position is pointed back
to: that of the moved node has been written. -/
theorem cancel_filled_back {m : Tomgr δ} (hwf : m.Wf) (h : m.Back) {e : Nat}
    (hlt : (m.entries e).heapIdx < m.size) (hidx : (m.heap (m.entries e).heapIdx).idx = e) :
    (m.filled (m.entries e).heapIdx (m.cancelEntries e)).Back := by
  intro q hq
  change q < m.size - 1 at hq
  show (m.cancelEntries e
    (if q = (m.entries e).heapIdx then m.heap (m.size - 1) else m.heap q).idx).heapIdx = q
  rw [cancelEntries_heapIdx]
  by_cases hqp : q = (m.entries e).heapIdx
  · rw [if_pos hqp, if_pos rfl]
    exact hqp.symm
  · have hlast : (m.heap q).idx ≠ (m.heap (m.size - 1)).idx := by
      intro he
      have := hwf.inj q (m.size - 1) (by omega) (by omega) he
      omega
    have hne : (m.heap q).idx ≠ e := fun he => hqp (hwf.inj q _ (by omega) hlt (he.trans hidx.symm))
    rw [if_neg hqp, if_neg hlast, if_neg hne]
    exact h q (by omega)

/-- **`tomgr_cancel` keeps every live entry pointing back.** -/
theorem tomgrCancel_back {m : Tomgr δ} (hwf : m.Wf) (h : m.Back) {e : Nat}
    (hlt : (m.entries e).heapIdx < m.size) (hidx : (m.heap (m.entries e).heapIdx).idx = e) :
    (m.tomgrCancel e).1.Back := by
  by_cases hone : m.size = 1
  · rw [tomgrCancel_one hlt hidx hone]
    exact fun p hp => absurd hp (Nat.not_lt_zero p)
  · have hmid := cancel_filled_back hwf h hlt hidx
    have hwf' : (m.filled (m.entries e).heapIdx (m.cancelEntries e)).Wf := by
      refine (@fill_removed _ m hwf _ hlt (m.cancelEntries e)
        (fun x => (setHeapIdx_data _ _ _ x).trans (setHeapIdx_data m e _ x))
        (fun x => (setHeapIdx_to _ _ _ x).trans (setHeapIdx_to m e _ x)) fun q hq hqp => ?_).wf
      have hsize := hwf.sizeLe
      refine setHeapIdx_valid (by unfold toInvalid; omega) ?_
      have hne : (m.heap q).idx ≠ e := fun he => hqp (hwf.inj q _ hq hlt (he.trans hidx.symm))
      rw [setHeapIdx_heapIdx, if_neg hne]
      exact hwf.valid q hq
    rw [tomgrCancel_accepted hlt hidx hone]
    dsimp only
    split
    · next hin =>
      split
      · exact heapifyUpLoop_back _ hwf' hin hmid
      · exact heapifyDownLoop_back _ hwf' hin hmid
    · exact hmid

/-- The heap after a pop has moved its last node to the root. -/
def popMid (m : Tomgr δ) : Tomgr δ :=
  m.filled 0 (m.setHeapIdx (m.heap 0).idx toInvalid).entries

theorem tomgrPop_eq {m : Tomgr δ} (hpos : 0 < m.size) :
    (m.tomgrPop).1 = m.popMid.heapifyDown 0 := by
  unfold tomgrPop
  rw [if_neg (by omega)]
  rfl

/-- Whether the last node leaves the root again. -/
theorem popMid_smallest (m : Tomgr δ) :
    m.popMid.smallest 0 ≠ 0 ↔ ∃ p, (p = 1 ∨ p = 2) ∧ p < m.size - 1 ∧
      (m.heap p).timeout < (m.heap (m.size - 1)).timeout := by
  have hleast := smallest_least m.popMid 0
  have hroot : m.popMid.key 0 = m.key (m.size - 1) := filled_key_same m 0 _
  have hother : ∀ p, p ≠ 0 → m.popMid.key p = m.key p := fun p hp => filled_key_other m _ hp
  constructor
  · intro hne
    obtain ⟨hs0, hpar, hlt, hless⟩ := hleast.place.resolve_left hne
    rw [hroot, hother _ hne] at hless
    refine ⟨m.popMid.smallest 0, ?_, hlt, (timeout_lt_iff m _ _).mpr hless⟩
    unfold parent at hpar
    omega
  · intro ⟨p, hp, hlt, hless⟩ h0
    rw [timeout_lt_iff] at hless
    have := hleast.child p (by omega) hlt (by unfold parent; omega)
    rw [h0, hroot, hother p (by omega)] at this
    omega

/-- Every position but the root is pointed back to. -/
theorem popMid_back {m : Tomgr δ} (hwf : m.Wf) (hpos : 0 < m.size) (h : m.Back) {p : Nat}
    (hp : p < m.size - 1) (hp0 : p ≠ 0) : m.popMid.PointsBack p := by
  show ((m.setHeapIdx (m.heap 0).idx toInvalid).entries
    (if p = 0 then m.heap (m.size - 1) else m.heap p).idx).heapIdx = p
  have hne : (m.heap p).idx ≠ (m.heap 0).idx := fun he => hp0 (hwf.inj p 0 (by omega) hpos he)
  rw [if_neg hp0, setHeapIdx_heapIdx, if_neg hne]
  exact h p (by omega)

theorem popMid_wf {m : Tomgr δ} (hwf : m.Wf) (hpos : 0 < m.size) : m.popMid.Wf := by
  refine (fill_removed hwf hpos (fun x => setHeapIdx_data m _ _ x)
    (fun x => setHeapIdx_to m _ _ x) fun q hq hq0 => ?_).wf
  have hne : (m.heap q).idx ≠ (m.heap 0).idx := fun he => hq0 (hwf.inj q 0 hq hpos he)
  rw [setHeapIdx_heapIdx, if_neg hne]
  exact hwf.valid q hq

/-- **When `tomgr_pop` keeps every live entry pointing back.** -/
theorem tomgrPop_back_iff {m : Tomgr δ} (hwf : m.Wf) (h : m.Back) (hpos : 0 < m.size) :
    (m.tomgrPop).1.Back ↔ m.PopRefreshes := by
  rw [tomgrPop_eq hpos]
  have hsize : m.popMid.size = m.size - 1 := rfl
  by_cases hone : m.size ≤ 1
  · refine ⟨fun _ => .inl hone, fun _ p hp => ?_⟩
    rw [(heapifyDown_reordered m.popMid 0).size, hsize] at hp
    omega
  unfold PopRefreshes
  rw [← popMid_smallest, or_iff_right hone]
  by_cases hs : m.popMid.smallest 0 = 0
  · refine ⟨fun hb => ?_, fun hn => absurd hs hn⟩
    -- the root stays, and its entry still has the position the node came from
    have hstay : m.popMid.heapifyDown 0 = m.popMid := by
      unfold heapifyDown
      rw [hsize]
      obtain ⟨n, hn⟩ : ∃ n, m.size - 1 = n + 1 := ⟨m.size - 2, by omega⟩
      rw [hn, heapifyDownLoop, if_neg (fun hne => hne hs)]
    rw [hstay] at hb
    have hroot : m.popMid.PointsBack 0 := hb 0 (by rw [hsize]; omega)
    have hne : (m.heap (m.size - 1)).idx ≠ (m.heap 0).idx := fun he => by
      have := hwf.inj (m.size - 1) 0 (by omega) hpos he
      omega
    have hlast : ((m.setHeapIdx (m.heap 0).idx toInvalid).entries
        (m.heap (m.size - 1)).idx).heapIdx = m.size - 1 := by
      rw [setHeapIdx_heapIdx, if_neg hne]
      exact h (m.size - 1) (by omega)
    have h0 : ((m.setHeapIdx (m.heap 0).idx toInvalid).entries
        (m.heap (m.size - 1)).idx).heapIdx = 0 := hroot
    omega
  · refine ⟨fun _ => hs, fun _ => ?_⟩
    have hlt := smallest_lt hs
    have hwf' := popMid_wf hwf hpos
    have h0 : 0 < m.popMid.size := by rw [hsize]; omega
    unfold heapifyDown
    obtain ⟨n, hn⟩ : ∃ n, m.popMid.size = n + 1 := ⟨m.size - 2, by rw [hsize]; omega⟩
    rw [hn, heapifyDownLoop, if_pos hs]
    refine heapifyDownLoop_back n ((swap_reordered h0 hlt).wf hwf') hlt ?_
    exact swap_back hwf' h0 hlt (fun he => hs he.symm) fun p hp hp0 => popMid_back hwf hpos h hp hp0

/-! ## Cancelling -/

/-- **A live entry that points back can be cancelled.** -/
theorem Back.cancelsEach {m : Tomgr δ} (hwf : m.Wf) (hord : m.Ordered) (h : m.Back) :
    m.CancelsEach := by
  have hpos : ∀ e, m.Live e →
      (m.entries e).heapIdx < m.size ∧ (m.heap (m.entries e).heapIdx).idx = e := by
    intro e ⟨p, hp, hpe⟩
    have hback := h p hp
    unfold PointsBack at hback
    rw [hpe] at hback
    rw [hback]
    exact ⟨hp, hpe⟩
  refine ⟨hpos, fun e he => ?_⟩
  obtain ⟨hlt, hidx⟩ := hpos e he
  have hok : (m.tomgrCancel e).2 = true := by
    unfold tomgrCancel
    dsimp only
    rw [if_neg (by rw [not_or, Decidable.not_not]; exact ⟨by omega, hidx⟩)]
    split
    · rfl
    · split
      · split <;> rfl
      · rfl
  obtain ⟨has, -⟩ := tomgrCancel_as hwf hord hok
  exact ⟨hok, has.removed.live, fun x _ _ => ⟨has.quiet.type x, has.quiet.timeout x,
    has.quiet.data x⟩⟩

theorem CancelsEach.back {m : Tomgr δ} (hwf : m.Wf) (h : m.CancelsEach) : m.Back := by
  intro p hp
  obtain ⟨hlt, hidx⟩ := h.position (m.heap p).idx ⟨p, hp, rfl⟩
  exact hwf.inj _ _ hlt hp hidx

/-! ## Runs -/

/-- The pops among a call leave no `heap_idx` behind. -/
def CallRefreshes (m : Tomgr δ) : TomgrCall δ → Prop
  | .pop => m.PopRefreshes
  | _ => True

/-- **One call keeps every live entry pointing back** exactly if it is not a
pop that leaves one behind. -/
theorem tomgrCall_back_iff {s : TomgrRun δ} (hinv : s.Inv) (h : s.mgr.Back) (c : TomgrCall δ) :
    (tomgrCall s c).mgr.Back ↔ s.mgr.CallRefreshes c := by
  cases c with
  | insert type timeout data =>
    refine iff_of_true ?_ trivial
    simp only [tomgrCall]
    rcases hins : s.mgr.tomgrInsert type timeout data with ⟨m, _ | e⟩
    · rw [tomgrInsert_none hins]
      exact h
    · exact tomgrInsert_back hinv.wf h hins
  | cancel e =>
    refine iff_of_true ?_ trivial
    simp only [tomgrCall]
    rcases hcan : s.mgr.tomgrCancel e with ⟨m, ok⟩
    have hm : m = (s.mgr.tomgrCancel e).1 := by rw [hcan]
    have hback : m.Back := by
      rcases tomgrCancel_cases hinv.wf e with hc | ⟨hlive, -, -⟩
      · rw [hm, hc]
        exact h
      · obtain ⟨hlt, hidx⟩ := (h.cancelsEach hinv.wf hinv.ordered).position e hlive
        rw [hm]
        exact tomgrCancel_back hinv.wf h hlt hidx
    cases ok with
    | false => exact hback
    | true => exact hback
  | peek => exact iff_of_true h trivial
  | pop =>
    show _ ↔ s.mgr.PopRefreshes
    simp only [tomgrCall]
    rcases hpop : s.mgr.tomgrPop with ⟨m, _ | e⟩
    · obtain ⟨hm, h0⟩ := tomgrPop_none hpop
      refine iff_of_true ?_ (.inl (by omega))
      rw [hm]
      exact h
    · have hpos := (tomgrPop_some hinv.wf hinv.ordered hpop).1
      rw [← tomgrPop_back_iff hinv.wf h hpos, hpop]

/-- A run whose pops refresh ends with every live entry pointing back. -/
theorem tomgrRun_back {s : TomgrRun δ} (hinv : s.Inv) (h : s.mgr.Back) (calls : List (TomgrCall δ))
    (hcalls : ∀ before c after, calls = before ++ c :: after →
      (tomgrRun s before).mgr.CallRefreshes c) : (tomgrRun s calls).mgr.Back := by
  induction calls generalizing s with
  | nil => exact h
  | cons c calls ih =>
    have hc := hcalls [] c calls rfl
    refine ih (tomgrCall_inv hinv c) ((tomgrCall_back_iff hinv h c).mpr hc) ?_
    intro before c' after hsplit
    exact hcalls (c :: before) c' after (by rw [hsplit]; rfl)

/-- **When every live timeout can be cancelled.** In every state of a run each
live entry knows its position, and a cancel of it succeeds and takes out
exactly that entry, if and only if at each pop of the run nothing is left
behind or a child of the root is earlier than the last node. -/
theorem tomgrRun_cancelsEach_iff (mem : Tomgr δ) (calls : List (TomgrCall δ)) :
    (∀ before after, calls = before ++ after →
        (tomgrRun (tomgrStart mem) before).mgr.CancelsEach) ↔
      ∀ before after, calls = before ++ .pop :: after →
        (tomgrRun (tomgrStart mem) before).mgr.PopRefreshes := by
  have hinv := fun before => tomgrRun_inv (tomgrStart_inv mem) before
  constructor
  · intro h before after hcalls
    have hback := (h before _ hcalls).back (hinv before).wf
    have hnext := (h (before ++ [.pop]) after (by rw [hcalls, List.append_assoc]; rfl)).back
      (hinv (before ++ [.pop])).wf
    rw [tomgrRun_append] at hnext
    exact (tomgrCall_back_iff (hinv before) hback .pop).mp hnext
  · intro h before after hcalls
    refine (tomgrRun_back (tomgrStart_inv mem) (fun p hp => absurd hp (Nat.not_lt_zero p)) before
      ?_).cancelsEach (hinv before).wf (hinv before).ordered
    intro before' c after' hsplit
    cases c with
    | pop =>
      refine h before' (after' ++ after) ?_
      rw [hcalls, hsplit, List.append_assoc]
      rfl
    | insert | cancel | peek => trivial

/-- Two timeouts, of which the earlier is popped: the later one is live, its
`heap_idx` is not a position of the heap, and it cannot be cancelled. -/
theorem tomgrRun_cancel_fails :
    ∃ e, let m := (tomgrRun (tomgrStart zeroTomgr) [.insert .arp 50 0, .insert .arp 100 0, .pop]).mgr
      m.Live e ∧ ¬ (m.entries e).heapIdx < m.size ∧ (m.tomgrCancel e).2 = false ∧
        ¬ m.CancelsEach := by
  have hlive : (tomgrRun (tomgrStart zeroTomgr)
      [.insert .arp 50 0, .insert .arp 100 0, .pop]).mgr.Live 1 := ⟨0, by decide, rfl⟩
  refine ⟨1, hlive, by decide, by decide, fun h => ?_⟩
  exact absurd (h.position 1 hlive).1 (by decide)

end Tomgr

end Chamelio.Util
