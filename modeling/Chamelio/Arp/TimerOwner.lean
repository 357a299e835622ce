import Chamelio.Lib.Run
import Chamelio.Arp.ControlSpec

/-!
# Who owns an ARP timer

An entry of the control path's ARP table keeps the pointer of the timer that
was armed for it, and `control_arp_rep` cancels the timer through that
pointer. `Owns` says the pointer is good: it is `NULL`, or names a live timer
whose data is this entry.

`control_arp_lookup`, `control_arp_req`, `control_arp_rep` and
`control_arp_mbuf` keep it, whatever fails in them. `poll_timeouts` frees the
timer it handled, and keeps it exactly when the entry does not point to that
timer or was given a new one (`TimerOk`): on the early returns of
`control_arp_timeout` (the entry is resolved, the request cannot be enqueued,
no timer is free) the pointer stays behind, and the slot is handed out again.

Mirroring notes: the steps are calls with any message in any order. What the
cores and the rest of the control path do to the queues meanwhile is an
action that replaces them. A call that dereferences `NULL` ends the process;
its step changes nothing.
-/

namespace Chamelio.Arp

open Chamelio.Lib Chamelio.Util

inductive TimerAct
  | handle (core : Nat) (msg : FcMsg) (after : UInt64)
  | timeout (clk : Clock)
  | queues (qs : Nat → Fifo CfMsg) (txq : Fifo ArpPkt)

/-- One step of the control path. -/
def timerStep (cfg : ArpConfig) (ctx : ControlArp) : TimerAct → ControlArp × Unit
  | .handle core msg after => ((ctx.handle cfg core msg after).getD ctx, ())
  | .timeout clk => ((ctx.pollTimeout cfg clk).getD ctx, ())
  | .queues qs txq => ({ ctx with ctlFastQs := qs, txq }, ())

/-- Each entry's timer is its own. -/
def Owns (t : ArpTable) (m : Tomgr (Option Nat)) : Prop :=
  ∀ b, b < arpTableSize → ∀ e, (t.buckets b).te = some e →
    m.Live e ∧ (m.entries e).data = some b

/-- The expired timer is not the one its entry points to, or the entry gets
another: it is pending, both queues of core 0 have room and a timer is free. -/
def TimerOk (ctx : ControlArp) : TimerAct → Prop
  | .timeout clk =>
    ∀ te, te ∈ ctx.tomgr.tomgrPeek → (ctx.tomgr.entries te).timeout < clk.now →
      ∀ b, b ∈ (ctx.tomgr.entries te).data → (ctx.arpTable.buckets b).te = some te →
        (ctx.arpTable.buckets b).pending = true ∧ ctx.txq.hasRoom = true ∧
          (ctx.ctlFastQs 0).hasRoom = true ∧ timerFree ctx.tomgr = true
  | _ => True

instance (ctx : ControlArp) (a : TimerAct) : Decidable (TimerOk ctx a) := by
  unfold TimerOk
  split
  · infer_instance
  · infer_instance

/-! ## Table and timers together -/

section

variable {t t' : ArpTable} {m m' : Tomgr (Option Nat)}

/-- An entry of which the table forgets or keeps the pointer. -/
theorem Owns.table (h : Owns t m)
    (hte : ∀ b e, (t'.buckets b).te = some e → (t.buckets b).te = some e) : Owns t' m :=
  fun b hb e he => h b hb e (hte b e he)

/-- A new timer for bucket `b`. -/
theorem Owns.arm (h : Owns t m) {b e : Nat} {timeout : UInt64}
    (hins : Tomgr.Inserted m m' e timeout (some b)) (hnew : (t'.buckets b).te = some e)
    (hold : ∀ b', b' ≠ b → (t'.buckets b').te = (t.buckets b').te) :
    Owns t' m' := by
  intro b' hb' e' he'
  by_cases hbb : b' = b
  · rw [hbb, hnew] at he'
    cases he'
    rw [hbb]
    exact ⟨(hins.live e).mpr (.inr rfl), hins.data⟩
  · rw [hold b' hbb] at he'
    obtain ⟨hlive, hdata⟩ := h b' hb' e' he'
    have hne : e' ≠ e := fun heq => hins.fresh (heq ▸ hlive)
    exact ⟨(hins.live e').mpr (.inl hlive), by rw [hins.others e' hne]; exact hdata⟩

/-- A timer no entry points to is removed. -/
theorem Owns.remove (h : Owns t m) {e : Nat} (hrem : Tomgr.Removed m m' e)
    (hfree : ∀ b, b < arpTableSize → (t.buckets b).te ≠ some e) : Owns t m' := by
  intro b hb e' he'
  obtain ⟨hlive, hdata⟩ := h b hb e' he'
  refine ⟨(hrem.live e').mpr ⟨hlive, fun heq => hfree b hb (heq ▸ he')⟩, ?_⟩
  rw [hrem.data]
  exact hdata

/-- The timer of bucket `b` is cancelled and forgotten. -/
theorem Owns.cancel (h : Owns t m) (hwf : m.Wf) {b : Nat} (hb : b < arpTableSize)
    (hnone : (t'.buckets b).te = none)
    (hold : ∀ b', b' ≠ b → (t'.buckets b').te = (t.buckets b').te) :
    Owns t' (cancelTe m (t.buckets b).te) ∧ (cancelTe m (t.buckets b).te).Wf := by
  have htable : Owns t' m := by
    refine h.table fun b' e he => ?_
    by_cases hbb : b' = b
    · rw [hbb, hnone] at he
      cases he
    · rw [← hold b' hbb]
      exact he
  unfold cancelTe
  cases hte : (t.buckets b).te with
  | none => exact ⟨htable, hwf⟩
  | some e =>
    dsimp only
    rcases Tomgr.tomgrCancel_cases hwf e with hc | ⟨-, -, hrem⟩
    · rw [hc]
      exact ⟨htable, hwf⟩
    · refine ⟨htable.remove hrem fun b' hb' he' => ?_, hrem.wf⟩
      -- an entry with the same timer would be the same entry
      by_cases hbb : b' = b
      · rw [hbb, hnone] at he'
        cases he'
      · rw [hold b' hbb] at he'
        have h₁ := (h b hb e hte).2
        rw [(h b' hb' e he').2] at h₁
        exact hbb (Option.some.inj h₁)

end

/-- The state of the timers in every run. -/
structure TimerInv (ctx : ControlArp) : Prop where
  wf : ctx.tomgr.Wf
  owns : Owns ctx.arpTable ctx.tomgr

/-- Writing one bucket leaves the pointers of the others. -/
theorem set_te_ne (t : ArpTable) (b : Nat) (e : ArpTableEntry) :
    ∀ b', b' ≠ b → ((t.set b e).buckets b').te = (t.buckets b').te :=
  fun b' hne => by rw [ArpTable.set_ne t e hne]

theorem set_te_keep {t : ArpTable} {b : Nat} {x : ArpTableEntry} (hx : x.te = (t.buckets b).te) :
    ∀ b' e, ((t.set b x).buckets b').te = some e → (t.buckets b').te = some e := by
  intro b' e he
  by_cases hbb : b' = b
  · rw [hbb, ArpTable.set_same, hx] at he
    rw [hbb]
    exact he
  · rw [set_te_ne t b x b' hbb] at he
    exact he

theorem TimerInv.handle {cfg : ArpConfig} {ctx ctx' : ControlArp} (h : TimerInv ctx) {core : Nat}
    {msg : FcMsg} {after : UInt64} (hs : ctx.handle cfg core msg after = some ctx') :
    TimerInv ctx' := by
  cases msg with
  | arpLookup ip =>
    rcases ControlArp.controlArpLookup_cases hs with
      ⟨-, rfl⟩ | ⟨-, ⟨-, rfl⟩ | ⟨b, -, ⟨-, rfl⟩ | ⟨tomgr, te, hins, rfl⟩⟩⟩
    · exact h
    · exact ⟨h.wf, h.owns⟩
    · exact ⟨h.wf, h.owns.table (set_te_keep rfl)⟩
    · have hin := Tomgr.tomgrInsert_some h.wf hins
      refine ⟨hin.wf, h.owns.arm hin ?_ (set_te_ne _ b _)⟩
      unfold armTable
      rw [ArpTable.set_same]
  | mbufPending ip p =>
    cases hs
    obtain ⟨ht, hm⟩ := ControlArp.controlArpMbuf_table ctx ip p core
    exact ⟨by rw [hm]; exact h.wf, by rw [ht, hm]; exact h.owns⟩
  | arpRxReq spa tpa sha =>
    cases hs
    obtain ⟨hm, ht | ⟨b, -, -, ht⟩⟩ := ControlArp.controlArpReq_table cfg ctx spa tpa sha
    · exact ⟨by rw [hm]; exact h.wf, by rw [ht, hm]; exact h.owns⟩
    · exact ⟨by rw [hm]; exact h.wf, by rw [ht, hm]; exact h.owns.table (set_te_keep rfl)⟩
  | arpRxRep spa sha tpa tha =>
    rcases ControlArp.controlArpRep_cases hs with rfl | ⟨b, -, hl, -, rfl⟩
    · exact h
    · have hlt := (arpLookup_ip hl).2
      have hc := @Owns.cancel _ (solveTable ctx.arpTable b spa sha none) _ h.owns h.wf b hlt
        (by unfold solveTable; rw [ArpTable.set_same]) (set_te_ne _ b _)
      refine ⟨?_, ?_⟩
      · rw [ControlArp.publish_tomgr]
        exact hc.2
      · rw [ControlArp.publish_tomgr, ControlArp.publish_table]
        exact hc.1

theorem TimerInv.timeout {cfg : ArpConfig} {ctx ctx' : ControlArp} (h : TimerInv ctx) {clk : Clock}
    (hok : TimerOk ctx (.timeout clk)) (hs : ctx.pollTimeout cfg clk = some ctx') :
    TimerInv ctx' := by
  rcases ControlArp.pollTimeout_cases hs with rfl | ⟨te, b, hpk, hto, hdata, hcase⟩
  · exact h
  obtain ⟨hpos, hroot⟩ := Tomgr.peek_root hpk
  have hokb := hok te hpk hto b hdata
  -- no entry but `b` can point to the expired timer
  have hother : ∀ b', b' < arpTableSize → b' ≠ b → (ctx.arpTable.buckets b').te ≠ some te := by
    intro b' hb' hne he
    have := (h.owns b' hb' te he).2
    rw [hdata] at this
    exact hne (Option.some.inj this).symm
  have hpop := (Tomgr.tomgrPop_removed h.wf hpos).2
  rw [hroot] at hpop
  rcases hcase with ⟨hpend, rfl⟩ | ⟨hpend, ⟨hfail, rfl⟩ | ⟨tomgr, te', hins, rfl⟩⟩
  · refine ⟨hpop.wf, h.owns.remove hpop fun b' hb' he => ?_⟩
    by_cases hbb : b' = b
    · rw [hbb] at he
      rw [(hokb he).1] at hpend
      cases hpend
    · exact hother b' hb' hbb he
  · refine ⟨hpop.wf, h.owns.remove hpop fun b' hb' he => ?_⟩
    by_cases hbb : b' = b
    · rw [hbb] at he
      obtain ⟨-, htx, hcf, hfree⟩ := hokb he
      rw [hfail (ControlArp.request_of_room _ htx hcf)] at hfree
      cases hfree
    · exact hother b' hb' hbb he
  · have hin := Tomgr.tomgrInsert_some h.wf hins
    have hstamp : (ctx.tomgr.heap 0).timeout ≤ clk.after := by
      rw [← h.wf.stamp 0 hpos, hroot]
      exact UInt64.le_trans (UInt64.le_of_lt hto) clk.mono
    have hroot' := hin.root hpos hstamp
    have hpos' : 0 < tomgr.size := by
      rw [hin.size]
      omega
    have hpop' := (Tomgr.tomgrPop_removed hin.wf hpos').2
    rw [hroot', hroot] at hpop'
    have harm : Owns (ctx.arpTable.set b { ctx.arpTable.buckets b with te := some te' }) tomgr :=
      h.owns.arm hin (by rw [ArpTable.set_same]) (set_te_ne _ b _)
    refine ⟨hpop'.wf, harm.remove hpop' fun b' hb' he => ?_⟩
    by_cases hbb : b' = b
    · -- `b` points to the new timer, which was not live before
      rw [hbb, ArpTable.set_same] at he
      have heq : te' = te := Option.some.inj he
      exact hin.fresh (heq ▸ ⟨0, hpos, hroot⟩)
    · rw [set_te_ne _ b _ b' hbb] at he
      exact hother b' hb' hbb he

theorem TimerInv.step {cfg : ArpConfig} {ctx : ControlArp} {a : TimerAct} (h : TimerInv ctx)
    (hok : TimerOk ctx a) : TimerInv (timerStep cfg ctx a).1 := by
  cases a with
  | handle core msg after =>
    show TimerInv ((ctx.handle cfg core msg after).getD ctx)
    cases hs : ctx.handle cfg core msg after with
    | none => exact h
    | some ctx' => exact h.handle hs
  | timeout clk =>
    show TimerInv ((ctx.pollTimeout cfg clk).getD ctx)
    cases hs : ctx.pollTimeout cfg clk with
    | none => exact h
    | some ctx' => exact h.timeout hok hs
  | queues qs txq => exact ⟨h.wf, h.owns⟩

/-- `control_arp_rep` leaves every timer armed for another entry. -/
def RepOwnOnly (cfg : ArpConfig) (ctx : ControlArp) : Prop :=
  ∀ spa sha tpa tha ctx', ctx.controlArpRep cfg spa sha tpa tha = some ctx' →
    ∀ e, ctx.tomgr.Live e → (ctx.tomgr.entries e).data ≠ arpLookup ctx.arpTable spa →
      ctx'.tomgr.Live e ∧ (ctx'.tomgr.entries e).data = (ctx.tomgr.entries e).data

theorem TimerInv.rep {cfg : ArpConfig} {ctx : ControlArp} (h : TimerInv ctx) :
    RepOwnOnly cfg ctx := by
  intro spa sha tpa tha ctx' hs e hlive hdata
  rcases ControlArp.controlArpRep_cases hs with rfl | ⟨b, -, hl, -, rfl⟩
  · exact ⟨hlive, rfl⟩
  · rw [ControlArp.publish_tomgr]
    show (cancelTe ctx.tomgr (ctx.arpTable.buckets b).te).Live e ∧
      ((cancelTe ctx.tomgr (ctx.arpTable.buckets b).te).entries e).data = _
    unfold cancelTe
    cases hte : (ctx.arpTable.buckets b).te with
    | none => exact ⟨hlive, rfl⟩
    | some te =>
      dsimp only
      rcases Tomgr.tomgrCancel_cases h.wf te with hc | ⟨-, -, hrem⟩
      · rw [hc]
        exact ⟨hlive, rfl⟩
      · refine ⟨(hrem.live e).mpr ⟨hlive, fun heq => hdata ?_⟩, hrem.data e⟩
        rw [heq, (h.owns b (arpLookup_ip hl).2 te hte).2, hl]

/-- The control path after start-up, on a table whose memory held no pointers. -/
structure TimerInit (ctx : ControlArp) : Prop where
  table : ∃ mem : ArpTable, ctx.arpTable = ArpTable.arpTableInit mem ∧
    ∀ b, b < arpTableSize → (mem.buckets b).te = none
  tomgr : ∃ mem, ctx.tomgr = Tomgr.tomgrInit mem

/-- **An ARP entry owns its timer**, in every run in which each timeout meets
the condition: its pointer is `NULL` or names a live timer armed for it, and
`control_arp_rep` cancels no timer armed for another entry. -/
theorem arp_timer_owned {cfg : ArpConfig} {ctx₀ ctx : ControlArp} {log : List Unit}
    (h₀ : TimerInit ctx₀) (hr : Run TimerOk (timerStep cfg) ctx₀ log ctx) :
    Owns ctx.arpTable ctx.tomgr ∧ RepOwnOnly cfg ctx := by
  have hinv : TimerInv ctx := by
    refine Run.inv (I := fun _ ctx => TimerInv ctx) ⟨?_, ?_⟩ (fun _ s a h hok => h.step hok) hr
    · obtain ⟨mem, hm⟩ := h₀.tomgr
      rw [hm]
      exact Tomgr.tomgrInit_wf mem
    · obtain ⟨mem, hm, hnull⟩ := h₀.table
      rw [hm]
      intro b hb e he
      rw [show ((ArpTable.arpTableInit mem).buckets b).te = (mem.buckets b).te from rfl,
        hnull b hb] at he
      cases he
  exact ⟨hinv.owns, hinv.rep⟩

/-! ## A timer that changes hands -/

def zeroMac : EthAddr := ⟨0, 0, 0, 0, 0, 0⟩

/-- A host with one core. -/
def oneCore : ArpConfig := { fpCoresMax := 1, ip := 9, ethAddr := ⟨2, 0, 0, 0, 0, 1⟩ }

/-- An empty queue of `n` entries for every core. -/
def emptyQs (n : Nat) : Nat → Fifo CfMsg := fun _ => ⟨[], n⟩

def freshCtl : ControlArp where
  arpTable := ArpTable.arpTableInit ⟨fun _ => ⟨0, false, zeroMac, none⟩⟩
  arpBuf := arpBufInit
  tomgr := Tomgr.tomgrInit ⟨fun _ => ⟨0, 0⟩, fun _ => ⟨.arp, 0, none, 0⟩, 0⟩
  ctlFastQs := emptyQs 4
  txq := ⟨[], 4⟩

theorem freshCtl_init : TimerInit freshCtl :=
  ⟨⟨_, rfl, fun _ _ => rfl⟩, ⟨_, rfl⟩⟩

/-- Address 1 is asked for, asked for again and answered. -/
def retryRun : List TimerAct :=
  [.handle 0 (.arpLookup 1) 10, .timeout ⟨11, 20, by decide⟩,
    .handle 0 (.arpRxRep 1 zeroMac 9 ethBroadcast) 0]

/-- The retry finds room, so the pointers stay good. -/
theorem arp_timer_owned_retry :
    Owns (execAll (timerStep oneCore) retryRun freshCtl).2.arpTable
      (execAll (timerStep oneCore) retryRun freshCtl).2.tomgr := by
  have hrun := @Run.execOk _ _ _ TimerOk _ (timerStep oneCore) freshCtl retryRun _ _ Run.nil
    (by decide)
  exact (arp_timer_owned freshCtl_init hrun).1

/-- A transmit queue of four entries, all in use. -/
def fullTxq : Fifo ArpPkt :=
  ⟨List.replicate 4 (arpPkt zeroMac ethBroadcast 9 3 arpOperRequest), 4⟩

/-- The retry for address 1 finds the transmit queue full. Its timer is freed
and goes to address 2, and then address 1 is answered. -/
def staleRun : List TimerAct :=
  [.handle 0 (.arpLookup 1) 10, .queues (emptyQs 4) fullTxq, .timeout ⟨11, 20, by decide⟩,
    .queues (emptyQs 4) ⟨[], 4⟩, .handle 0 (.arpLookup 2) 30,
    .handle 0 (.arpRxRep 1 zeroMac 9 ethBroadcast) 0]

/-- The state after `n` of these steps. -/
def staleAfter (n : Nat) : ControlArp :=
  (execAll (timerStep oneCore) (staleRun.take n) freshCtl).2

/-- Before the answer, entry 1 points to the timer of entry 2; afterwards
address 2 is pending without a timer. -/
theorem arp_timer_stale :
    ((staleAfter 5).arpTable.buckets 1).te = some 0 ∧
      ((staleAfter 5).tomgr.entries 0).data = some 2 ∧
      (staleAfter 5).tomgr.tomgrPeek = some 0 ∧
      Pending (staleAfter 6).arpTable 2 ∧ (staleAfter 6).tomgr.size = 0 := by
  decide

end Chamelio.Arp
