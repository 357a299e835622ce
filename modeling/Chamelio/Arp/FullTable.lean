import Chamelio.Arp.TableMap
import Chamelio.Arp.TimerOwner

/-!
# The control path and a full ARP table

`arp_lookup`, `arp_insert` and `arp_insert_pending` return `NULL`, the last two
when no bucket is free. `control_arp_req` returns in that case,
`control_arp_rep` only inserts an address it has just found, and
`control_arp_mbuf` inserts nothing. `control_arp_lookup` does not look at what
`arp_insert_pending` returned: it sends the request, arms a timer with the
`NULL` entry and stores the timer in it.

So a run of the control path dereferences no `NULL` entry and arms no timer
with one exactly when no lookup gets that far with a full table (`LookupFits`).

Mirroring notes: a run is a list of messages and timeouts in any order, with
whatever the cores do to the queues in between. It ends at the first
dereference of `NULL` (`controlRun` is `none`).
-/

namespace Chamelio.Arp

open Chamelio.Lib Chamelio.Util

/-- One call of the control path; `none` if it dereferences `NULL`. -/
def controlCall (cfg : ArpConfig) (ctx : ControlArp) : TimerAct → Option ControlArp
  | .handle core msg after => ctx.handle cfg core msg after
  | .timeout clk => ctx.pollTimeout cfg clk
  | .queues qs txq => some { ctx with ctlFastQs := qs, txq }

def controlRun (cfg : ArpConfig) : List TimerAct → ControlArp → Option ControlArp
  | [], ctx => some ctx
  | a :: acts, ctx => (controlCall cfg ctx a).bind (controlRun cfg acts)

/-- No timer is armed with a `NULL` entry. -/
def TimersNamed (m : Tomgr (Option Nat)) : Prop := ∀ e, m.Live e → (m.entries e).data ≠ none

/-- A lookup fits: its address is in the table or a bucket is free for it, or
the lookup is given up before it arms a timer, because a queue of core 0 is
full or no timer is free. Other calls always fit. -/
def LookupFits (ctx : ControlArp) : TimerAct → Prop
  | .handle _ (.arpLookup ip) _ =>
    arpLookup ctx.arpTable ip ≠ none ∨ ¬ ctx.arpTable.Full ∨ ctx.txq.hasRoom = false ∨
      (ctx.ctlFastQs 0).hasRoom = false ∨ timerFree ctx.tomgr = false
  | _ => True

/-- Every lookup of the run fits where it comes. -/
def EachFits (cfg : ArpConfig) : List TimerAct → ControlArp → Prop
  | [], _ => True
  | a :: acts, ctx => LookupFits ctx a ∧
    match controlCall cfg ctx a with
    | none => True
    | some ctx' => EachFits cfg acts ctx'

/-- The control path after start-up. -/
structure ControlInit (ctx : ControlArp) : Prop where
  table : ∃ mem, ctx.arpTable = ArpTable.arpTableInit mem
  tomgr : ∃ mem, ctx.tomgr = Tomgr.tomgrInit mem

/-- What holds in every state of a run. -/
structure NullInv (ctx : ControlArp) : Prop where
  table : TableInv ctx.arpTable
  wf : ctx.tomgr.Wf
  named : TimersNamed ctx.tomgr

/-! ## Timers -/

section timers

variable {m m' : Tomgr (Option Nat)}

theorem TimersNamed.arm (h : TimersNamed m) {e b : Nat} {timeout : UInt64}
    (hin : Tomgr.Inserted m m' e timeout (some b)) : TimersNamed m' := by
  intro x hx
  by_cases hxe : x = e
  · rw [hxe, hin.data]
    exact Option.some_ne_none b
  · rw [hin.others x hxe]
    exact h x (((hin.live x).mp hx).resolve_right hxe)

theorem TimersNamed.remove (h : TimersNamed m) {e : Nat} (hrem : Tomgr.Removed m m' e) :
    TimersNamed m' := by
  intro x hx
  rw [hrem.data x]
  exact h x ((hrem.live x).mp hx).1

theorem TimersNamed.cancelTe (h : TimersNamed m) (hwf : m.Wf) (te : Option Nat) :
    (cancelTe m te).Wf ∧ TimersNamed (cancelTe m te) := by
  cases te with
  | none => exact ⟨hwf, h⟩
  | some e =>
    show (m.tomgrCancel e).1.Wf ∧ TimersNamed (m.tomgrCancel e).1
    rcases Tomgr.tomgrCancel_cases hwf e with hc | ⟨-, -, hrem⟩
    · rw [hc]
      exact ⟨hwf, h⟩
    · exact ⟨hrem.wf, h.remove hrem⟩

theorem tomgrInsert_of_not_free (h : timerFree m = false) (type : ToType) (timeout : UInt64)
    (data : Option Nat) : m.tomgrInsert type timeout data = (m, none) := by
  unfold Tomgr.tomgrInsert
  split
  · rfl
  · next hsize =>
    unfold timerFree at h
    rw [decide_eq_true (by omega), Bool.true_and] at h
    cases hf : m.findFreeEntry with
    | none => rfl
    | some e =>
      rw [hf] at h
      cases h

end timers

section calls

variable {cfg : ArpConfig} {ctx ctx' : ControlArp}

/-- A handled message keeps the table and the timers. -/
theorem NullInv.handle (h : NullInv ctx) {core : Nat} {msg : FcMsg} {after : UInt64}
    (hs : ctx.handle cfg core msg after = some ctx') : NullInv ctx' := by
  cases msg with
  | arpLookup ip =>
    rcases ControlArp.controlArpLookup_cases hs with
      ⟨-, rfl⟩ | ⟨hl, ⟨-, rfl⟩ | ⟨b, hb, ⟨-, rfl⟩ | ⟨tomgr, te, hins, rfl⟩⟩⟩
    · exact h
    · exact ⟨h.table, h.wf, h.named⟩
    · exact ⟨h.table.set hb rfl (unknown_ne hl hb), h.wf, h.named⟩
    · have hin := Tomgr.tomgrInsert_some h.wf hins
      exact ⟨h.table.set hb rfl (unknown_ne hl hb), hin.wf, h.named.arm hin⟩
  | mbufPending ip p =>
    cases hs
    obtain ⟨ht, hm⟩ := ControlArp.controlArpMbuf_table ctx ip p core
    exact ⟨by rw [ht]; exact h.table, by rw [hm]; exact h.wf, by rw [hm]; exact h.named⟩
  | arpRxReq spa tpa sha =>
    cases hs
    obtain ⟨hm, ht⟩ := ControlArp.controlArpReq_table cfg ctx spa tpa sha
    refine ⟨?_, by rw [hm]; exact h.wf, by rw [hm]; exact h.named⟩
    rcases ht with ht | ⟨b, hres, hb, ht⟩
    · rw [ht]
      exact h.table
    · rw [ht]
      exact h.table.set hb rfl (h.table.unresolved_ne hres hb)
  | arpRxRep spa sha tpa tha =>
    rcases ControlArp.controlArpRep_cases hs with rfl | ⟨b, -, hl, hpend, rfl⟩
    · exact h
    · obtain ⟨hwf, hnamed⟩ := h.named.cancelTe h.wf (ctx.arpTable.buckets b).te
      have hne := h.table.pending_ne ⟨b, hl, hpend⟩
      refine ⟨?_, ?_, ?_⟩
      · rw [ControlArp.publish_table]
        exact h.table.set (arpBucket_of_lookup hl) rfl hne
      · rw [ControlArp.publish_tomgr]
        exact hwf
      · rw [ControlArp.publish_tomgr]
        exact hnamed

/-- A change of a timer pointer keeps the table. -/
theorem TableInv.setTe {t : ArpTable} (h : TableInv t) (b : Nat) (te : Option Nat) :
    TableInv (t.set b { t.buckets b with te }) :=
  (sameStatus_te t b te).inv h

theorem NullInv.timeout (h : NullInv ctx) {clk : Clock} (hs : ctx.pollTimeout cfg clk = some ctx') :
    NullInv ctx' := by
  rcases ControlArp.pollTimeout_cases hs with rfl | ⟨te, b, hpk, hto, -, hcase⟩
  · exact h
  obtain ⟨hpos, -⟩ := Tomgr.peek_root hpk
  have hpop := (Tomgr.tomgrPop_removed h.wf hpos).2
  rcases hcase with ⟨-, rfl⟩ | ⟨-, ⟨-, rfl⟩ | ⟨tomgr, te', hins, rfl⟩⟩
  · exact ⟨h.table, hpop.wf, h.named.remove hpop⟩
  · exact ⟨h.table, hpop.wf, h.named.remove hpop⟩
  · have hin := Tomgr.tomgrInsert_some h.wf hins
    have hpop' := (Tomgr.tomgrPop_removed hin.wf (by rw [hin.size]; omega)).2
    exact ⟨h.table.setTe b _, hpop'.wf, (h.named.arm hin).remove hpop'⟩

/-- **A call keeps the invariant** if it returns. -/
theorem NullInv.call (h : NullInv ctx) {a : TimerAct} (hs : controlCall cfg ctx a = some ctx') :
    NullInv ctx' := by
  cases a with
  | handle core msg after => exact h.handle hs
  | timeout clk => exact h.timeout hs
  | queues qs txq =>
    cases hs
    exact ⟨h.table, h.wf, h.named⟩

/-! ## What a call dereferences -/

/-- **`control_arp_timeout` finds an entry in every timer.** -/
theorem NullInv.timeout_ne (h : NullInv ctx) (clk : Clock) : ctx.pollTimeout cfg clk ≠ none := by
  unfold ControlArp.pollTimeout
  cases hpk : ctx.tomgr.tomgrPeek with
  | none => exact Option.some_ne_none _
  | some te =>
    dsimp only
    split
    · obtain ⟨hpos, hroot⟩ := Tomgr.peek_root hpk
      obtain ⟨b, hb⟩ := Option.ne_none_iff_exists'.mp (h.named te ⟨0, hpos, hroot⟩)
      have hret : ctx.controlArpTimeout cfg te clk.after ≠ none := by
        unfold ControlArp.controlArpTimeout
        rw [hb]
        dsimp only
        split
        · exact Option.some_ne_none _
        · split
          · exact Option.some_ne_none _
          · split <;> exact Option.some_ne_none _
      cases hto : ctx.controlArpTimeout cfg te clk.after with
      | none => exact absurd hto hret
      | some ctx' => exact Option.some_ne_none _
    · exact Option.some_ne_none _

/-- **`control_arp_rep` inserts an address it has found**, which has a bucket. -/
theorem controlArpRep_ne (spa tpa : UInt32) (sha tha : EthAddr) :
    ctx.controlArpRep cfg spa sha tpa tha ≠ none := by
  unfold ControlArp.controlArpRep
  split
  · exact Option.some_ne_none _
  · split
    · exact Option.some_ne_none _
    · next hp =>
      obtain ⟨b, hl, -⟩ := Decidable.not_not.mp hp
      unfold arpInsert
      rw [arpBucket_of_lookup hl]
      exact Option.some_ne_none _

/-- When `arp_request` succeeds. -/
theorem request_ok_iff (ip : UInt32) :
    (ctx.request cfg ip).2 = true ↔ ctx.txq.hasRoom = true ∧ (ctx.ctlFastQs 0).hasRoom = true := by
  refine ⟨fun h => ?_, fun ⟨htx, hcf⟩ => ControlArp.request_of_room ip htx hcf⟩
  unfold ControlArp.request arpRequest arpSend at h
  split at h
  next txq cfq ok heq =>
  dsimp only at h
  rw [h] at heq
  split at heq
  · cases heq
  · next txq' hpush =>
    split at heq
    · cases heq
    · next cfq' hpush' =>
      refine ⟨?_, ?_⟩
      · unfold Fifo.push at hpush
        split at hpush
        · assumption
        · cases hpush
      · unfold Fifo.push at hpush'
        split at hpush'
        · assumption
        · cases hpush'

/-- A table without a bucket for an unknown address is full. -/
theorem TableInv.no_bucket_iff {t : ArpTable} (h : TableInv t) {ip : UInt32}
    (hl : arpLookup t ip = none) : arpBucket t ip = none ↔ t.Full := by
  by_cases hip : ip = arpIpEmpty
  · rw [hip] at hl ⊢
    refine iff_of_true (arpBucket_empty_none hl) ?_
    -- the search for an empty bucket passed all of them
    intro b hb
    obtain ⟨j, hj, hslot⟩ := arpSlot_cycle.onto arpIpEmpty b hb
    have := place_none_iff.mp (arpBucket_empty_none hl) j (Nat.zero_le j) (by omega)
    rw [hslot] at this
    exact this.1
  · rw [h.bucket_none_iff hip]
    exact and_iff_right hl

/-- **When `control_arp_lookup` dereferences no `NULL` entry.** -/
theorem controlArpLookup_ne_iff (h : TableInv ctx.arpTable) (core : Nat) (ip : UInt32)
    (after : UInt64) :
    ctx.controlArpLookup cfg ip after ≠ none ↔ LookupFits ctx (.handle core (.arpLookup ip) after) := by
  unfold ControlArp.controlArpLookup LookupFits
  cases hl : arpLookup ctx.arpTable ip with
  | some b => exact iff_of_true (Option.some_ne_none _) (.inl (by rw [hl]; exact Option.some_ne_none b))
  | none =>
    rw [← h.no_bucket_iff hl]
    unfold arpInsertPending
    cases hb : arpBucket ctx.arpTable ip with
    | some b =>
      refine iff_of_true ?_ (.inr (.inl (Option.some_ne_none b)))
      dsimp only
      split
      · exact Option.some_ne_none _
      · split <;> exact Option.some_ne_none _
    | none =>
      dsimp only
      by_cases hreq : (ctx.request cfg ip).2 = true
      · obtain ⟨htx, hcf⟩ := (request_ok_iff ip).mp hreq
        have hgo : ¬ ({ ctx with arpTable := ctx.arpTable : ControlArp }.request cfg ip).2 = false :=
          fun hf => absurd (hf.symm.trans hreq) Bool.false_ne_true
        rw [if_neg hgo]
        cases hfree : timerFree ctx.tomgr with
        | true =>
          -- the timer is armed, and its entry is `NULL`
          obtain ⟨m', e, hins⟩ := tomgrInsert_of_free hfree .arp after none
          rw [show (({ ctx with arpTable := ctx.arpTable : ControlArp }.request cfg ip).1).tomgr =
            ctx.tomgr from rfl, hins]
          simp [htx, hcf, hl]
        | false =>
          refine iff_of_true ?_ (.inr (.inr (.inr (.inr rfl))))
          rw [show (({ ctx with arpTable := ctx.arpTable : ControlArp }.request cfg ip).1).tomgr =
            ctx.tomgr from rfl, tomgrInsert_of_not_free hfree .arp after none]
          exact Option.some_ne_none _
      · have hgo : ({ ctx with arpTable := ctx.arpTable : ControlArp }.request cfg ip).2 = false :=
          Bool.eq_false_iff.mpr hreq
        rw [if_pos hgo]
        refine iff_of_true (Option.some_ne_none _) ?_
        rw [request_ok_iff] at hreq
        by_cases htx : ctx.txq.hasRoom = true
        · exact .inr (.inr (.inr (.inl (Bool.eq_false_iff.mpr fun hcf => hreq ⟨htx, hcf⟩))))
        · exact .inr (.inr (.inl (Bool.eq_false_iff.mpr htx)))

/-- A call dereferences no `NULL` entry exactly if a lookup fits. -/
theorem NullInv.call_ne_iff (h : NullInv ctx) (a : TimerAct) :
    controlCall cfg ctx a ≠ none ↔ LookupFits ctx a := by
  cases a with
  | handle core msg after =>
    cases msg with
    | arpLookup ip => exact controlArpLookup_ne_iff h.table core ip after
    | mbufPending | arpRxReq => exact iff_of_true (Option.some_ne_none _) trivial
    | arpRxRep spa sha tpa tha => exact iff_of_true (controlArpRep_ne spa tpa sha tha) trivial
  | timeout clk => exact iff_of_true (h.timeout_ne clk) trivial
  | queues qs txq => exact iff_of_true (Option.some_ne_none _) trivial

end calls

/-! ## Runs -/

theorem ControlInit.nullInv {ctx : ControlArp} (h : ControlInit ctx) : NullInv ctx := by
  obtain ⟨mem, hm⟩ := h.table
  obtain ⟨mem', hm'⟩ := h.tomgr
  refine ⟨?_, ?_, ?_⟩
  · rw [hm]
    exact arpTableInit_inv mem
  · rw [hm']
    exact Tomgr.tomgrInit_wf mem'
  · rw [hm']
    intro e ⟨p, hp, _⟩
    exact absurd hp (Nat.not_lt_zero p)

theorem NullInv.run_iff {cfg : ArpConfig} (acts : List TimerAct) {ctx : ControlArp}
    (h : NullInv ctx) :
    (∃ ctx', controlRun cfg acts ctx = some ctx' ∧ TimersNamed ctx'.tomgr) ↔
      EachFits cfg acts ctx := by
  induction acts generalizing ctx with
  | nil => exact iff_of_true ⟨ctx, rfl, h.named⟩ trivial
  | cons a acts ih =>
    have hcall : controlCall cfg ctx a ≠ none ↔ LookupFits ctx a := h.call_ne_iff a
    unfold controlRun EachFits
    cases hs : controlCall cfg ctx a with
    | none =>
      rw [hs] at hcall
      refine iff_of_false (fun ⟨ctx', hrun, _⟩ => by cases hrun) fun ⟨hfits, _⟩ => ?_
      exact hcall.mpr hfits rfl
    | some ctx₁ =>
      rw [hs] at hcall
      rw [and_iff_right (hcall.mp (Option.some_ne_none ctx₁))]
      exact ih (h.call hs)

/-- **When the control path survives.** A run from the start dereferences no
`NULL` entry and arms no timer with one if and only if each of its lookups
fits: its address is known, a bucket is free, or the lookup is given up before
it arms a timer. -/
theorem control_arp_null_safe_iff {cfg : ArpConfig} {ctx₀ : ControlArp} (h₀ : ControlInit ctx₀)
    (acts : List TimerAct) :
    (∃ ctx, controlRun cfg acts ctx₀ = some ctx ∧ TimersNamed ctx.tomgr) ↔
      EachFits cfg acts ctx₀ :=
  h₀.nullInv.run_iff acts

theorem freshCtl_controlInit : ControlInit freshCtl := ⟨⟨_, rfl⟩, ⟨_, rfl⟩⟩

/-- A lookup, its retry and the answer find room. -/
theorem control_arp_null_safe_retry :
    ∃ ctx, controlRun oneCore retryRun freshCtl = some ctx ∧ TimersNamed ctx.tomgr := by
  refine (control_arp_null_safe_iff freshCtl_controlInit retryRun).mpr ?_
  refine ⟨.inr (.inl ?_), trivial, trivial, trivial⟩
  intro hfull
  exact hfull 0 (by decide) rfl

/-- Queues with room for 100 entries, and lookups of `n` addresses. -/
def manyLookups (n : Nat) : List TimerAct :=
  .queues (emptyQs 100) ⟨[], 100⟩ ::
    (List.range n).map fun i => .handle 0 (.arpLookup (UInt32.ofNat (i + 1))) 10

/-- 64 addresses fill the table. The lookup of one more dereferences `NULL`. -/
theorem control_arp_null_deref :
    (controlRun oneCore (manyLookups 64) freshCtl).isSome = true ∧
      controlRun oneCore (manyLookups 65) freshCtl = none := by
  decide +kernel

end Chamelio.Arp
