import Chamelio.Arp.System

/-!
# ARP resolution makes progress

A core that marked an address pending waits for an `ARP_UPDATE`. For it to
come, somebody has to be at work on the address: the core's `ARP_LOOKUP` is
on its way, or the control path has the address pending with a timer that
will ask again, or the update itself is on its way. `ResolveInv` is the
invariant behind it:

* every pending entry of the control table has a live timer of its own
  (`timers`), so nothing that happens to other entries takes it away;
* an address pending on a core is in the control table, or its lookup is in
  flight (`known`);
* an address resolved in the control table is resolved on every core, or the
  update for that core is in flight, or the core's table is full (`told`).

It holds as long as nothing fails half-way (`ResolveOk`): `process_tx_arp`
can enqueue the lookup for the entry it marked, `control_arp_lookup` and
`control_arp_timeout` can send the request and arm the timer for the entry
they leave pending, and `update_arp_fast` reaches every core. Each of these
has an early return that keeps the entry pending with nobody at work on it.
-/

namespace Chamelio.Arp

open Chamelio.Lib Chamelio.Util ControlArp

/-- A request can be sent and its timer armed. -/
def RetryRoom (ctl : ControlArp) : Prop :=
  ctl.txq.hasRoom = true ∧ (ctl.ctlFastQs 0).hasRoom = true ∧ timerFree ctl.tomgr = true

instance (ctl : ControlArp) : Decidable (RetryRoom ctl) := by
  unfold RetryRoom
  infer_instance

namespace ArpSys

/-- The core can ask for the address it is about to mark pending. -/
def AskRoom (env : ArpEnv) (s : ArpSys) (c : Nat) (p : MbufTx) : Prop :=
  match env.remoteIp p with
  | none => True
  | some ip =>
    arpLookup (s.tables c) ip = none → arpBucket (s.tables c) ip ≠ none →
      (s.fcQs c).hasRoom = true

instance (env : ArpEnv) (s : ArpSys) (c : Nat) (p : MbufTx) : Decidable (AskRoom env s c p) := by
  unfold AskRoom
  split
  · infer_instance
  · infer_instance

/-- A message of a core that the control path can act on. -/
def ActRoom (env : ArpEnv) (ctl : ControlArp) : FcMsg → Prop
  | .arpLookup ip =>
    arpLookup ctl.arpTable ip = none → arpBucket ctl.arpTable ip ≠ none ∧ RetryRoom ctl
  | msg => Resolves env.cfg ctl msg → RoomAll env ctl

instance (env : ArpEnv) (ctl : ControlArp) (msg : FcMsg) : Decidable (ActRoom env ctl msg) :=
  match msg with
  | .arpLookup ip =>
    inferInstanceAs (Decidable (arpLookup ctl.arpTable ip = none →
      arpBucket ctl.arpTable ip ≠ none ∧ RetryRoom ctl))
  | .mbufPending ip p =>
    inferInstanceAs (Decidable (Resolves env.cfg ctl (.mbufPending ip p) → RoomAll env ctl))
  | .arpRxReq spa tpa sha =>
    inferInstanceAs (Decidable (Resolves env.cfg ctl (.arpRxReq spa tpa sha) → RoomAll env ctl))
  | .arpRxRep spa sha tpa tha =>
    inferInstanceAs
      (Decidable (Resolves env.cfg ctl (.arpRxRep spa sha tpa tha) → RoomAll env ctl))

/-- The step does not fail half-way. -/
def ResolveOk (env : ArpEnv) (s : ArpSys) : ArpAct → Prop
  | .tx c p => AskRoom env s c p
  | .coreMsg c txFull =>
    ∀ p, (s.cfQ c).head? = some (.mbufTx p) → txFull = false → AskRoom env s c p
  | .ctlMsg c _ => ∀ msg, msg ∈ (s.fcQs c).head? → ActRoom env s.ctl msg
  | .timeout clk =>
    ∀ te, te ∈ s.ctl.tomgr.tomgrPeek → (s.ctl.tomgr.entries te).timeout < clk.now →
      ∀ b, b ∈ (s.ctl.tomgr.entries te).data →
        (s.ctl.arpTable.buckets b).pending = true → RetryRoom s.ctl
  | .rxArp _ _ | .other _ => True

end ArpSys

open ArpSys

/-- Every pending entry has a live timer of its own. -/
def PendingTimers (t : ArpTable) (m : Tomgr (Option Nat)) : Prop :=
  ∀ b, b < arpTableSize → (t.buckets b).pending = true →
    ∃ e, (t.buckets b).te = some e ∧ m.Live e ∧ (m.entries e).data = some b

structure ResolveInv (env : ArpEnv) (s : ArpSys) : Prop where
  ctlTable : TableInv s.ctl.arpTable
  tables : ∀ c, TableInv (s.tables c)
  wf : s.ctl.tomgr.Wf
  timers : PendingTimers s.ctl.arpTable s.ctl.tomgr
  known : ∀ c, c < env.cfg.fpCoresMax → ∀ ip, Pending (s.tables c) ip →
    .arpLookup ip ∈ (s.fcQs c).items ∨ arpLookup s.ctl.arpTable ip ≠ none
  told : ∀ ip, ip ≠ arpIpEmpty → Resolved s.ctl.arpTable ip → ∀ c, c < env.cfg.fpCoresMax →
    Resolved (s.tables c) ip ∨ (∃ mac, .arpUpdate ip mac ∈ (s.cfQ c).items) ∨
      arpBucket (s.tables c) ip = none
  updates : ∀ c ip mac, .arpUpdate ip mac ∈ (s.cfQ c).items → ip ≠ arpIpEmpty

section

variable {env : ArpEnv} {s : ArpSys}

/-! ## Timers -/

theorem PendingTimers.arm {t t' : ArpTable} {m m' : Tomgr (Option Nat)} (h : PendingTimers t m)
    {b e : Nat} {timeout : UInt64} (hins : Tomgr.Inserted m m' e timeout (some b))
    (hnew : (t'.buckets b).te = some e) (hold : ∀ b', b' ≠ b → t'.buckets b' = t.buckets b') :
    PendingTimers t' m' := by
  intro b' hb' hp
  by_cases hbb : b' = b
  · rw [hbb]
    exact ⟨e, hnew, (hins.live e).mpr (.inr rfl), hins.data⟩
  · rw [hold b' hbb] at hp ⊢
    obtain ⟨e', hte, hlive, hdata⟩ := h b' hb' hp
    have hne : e' ≠ e := fun heq => hins.fresh (heq ▸ hlive)
    exact ⟨e', hte, (hins.live e').mpr (.inl hlive), by rw [hins.others e' hne]; exact hdata⟩

/-- A timer of no pending entry is removed. -/
theorem PendingTimers.remove {t : ArpTable} {m m' : Tomgr (Option Nat)} (h : PendingTimers t m)
    {e : Nat} (hrem : Tomgr.Removed m m' e)
    (hfree : ∀ b, b < arpTableSize → (t.buckets b).pending = true → (t.buckets b).te ≠ some e) :
    PendingTimers t m' := by
  intro b hb hp
  obtain ⟨e', hte, hlive, hdata⟩ := h b hb hp
  refine ⟨e', hte, (hrem.live e').mpr ⟨hlive, fun heq => hfree b hb hp (heq ▸ hte)⟩, ?_⟩
  rw [hrem.data]
  exact hdata

/-- An entry that is not pending needs no timer. -/
theorem PendingTimers.solve {t : ArpTable} {m : Tomgr (Option Nat)} (h : PendingTimers t m)
    (b : Nat) (ip : UInt32) (mac : EthAddr) (te : Option Nat) :
    PendingTimers (solveTable t b ip mac te) m := by
  intro b' hb' hp
  unfold solveTable at hp ⊢
  by_cases hbb : b' = b
  · rw [hbb, ArpTable.set_same] at hp
    cases hp
  · rw [ArpTable.set_ne _ _ hbb] at hp ⊢
    exact h b' hb' hp

/-- Cancelling the timer of an entry leaves those of the others. -/
theorem PendingTimers.cancel {t : ArpTable} {m : Tomgr (Option Nat)} (h : PendingTimers t m)
    (hwf : m.Wf) {b : Nat} (hb : b < arpTableSize) (hp : (t.buckets b).pending = true)
    (ip : UInt32) (mac : EthAddr) :
    PendingTimers (solveTable t b ip mac none) (cancelTe m (t.buckets b).te) ∧
      (cancelTe m (t.buckets b).te).Wf := by
  have hsolve := h.solve b ip mac none
  obtain ⟨e, hte, -, hdata⟩ := h b hb hp
  rw [hte]
  unfold cancelTe
  dsimp only
  rcases Tomgr.tomgrCancel_cases hwf e with hc | ⟨-, -, hrem⟩
  · rw [hc]
    exact ⟨hsolve, hwf⟩
  · refine ⟨hsolve.remove hrem fun b' hb' hp' he => ?_, hrem.wf⟩
    obtain ⟨e', hte', -, hdata'⟩ := hsolve b' hb' hp'
    rw [he] at hte'
    cases hte'
    rw [hdata] at hdata'
    cases hdata'
    unfold solveTable at hp'
    rw [ArpTable.set_same] at hp'
    cases hp'

/-! ## Steps of a core -/

/-- A core changes its table and enqueues messages. -/
theorem ResolveInv.core (h : ResolveInv env s) {c : Nat} {t : ArpTable} {fcq : Fifo FcMsg}
    (htab : TableInv t)
    (hpend : ∀ ip, Pending t ip → Pending (s.tables c) ip ∨ .arpLookup ip ∈ fcq.items)
    (hfc : ∀ m, m ∈ (s.fcQs c).items → m ∈ fcq.items)
    (hres : ∀ ip, ip ≠ arpIpEmpty → Resolved (s.tables c) ip → Resolved t ip)
    (hnone : ∀ ip, arpBucket (s.tables c) ip = none → arpBucket t ip = none) :
    ResolveInv env ((s.setTable c t).setFcQ c fcq) := by
  have htables : ∀ c', ((s.setTable c t).setFcQ c fcq).tables c' =
      if c' = c then t else s.tables c' := fun _ => rfl
  have hfcqs : ∀ c', ((s.setTable c t).setFcQ c fcq).fcQs c' =
      if c' = c then fcq else s.fcQs c' := fun _ => rfl
  refine ⟨h.ctlTable, ?_, h.wf, h.timers, ?_, ?_, h.updates⟩
  · intro c'
    rw [htables]
    split
    · exact htab
    · exact h.tables c'
  · intro c' hc' ip hp
    rw [htables] at hp
    rw [hfcqs]
    split
    · next hcc =>
      rw [if_pos hcc] at hp
      rw [hcc] at hc'
      rcases hpend ip hp with hp | hm
      · rcases h.known c hc' ip hp with hm | hk
        · exact .inl (hfc _ hm)
        · exact .inr hk
      · exact .inl hm
    · next hcc =>
      rw [if_neg hcc] at hp
      exact h.known c' hc' ip hp
  · intro ip hne hr c' hc'
    rw [htables]
    split
    · next hcc =>
      rw [hcc] at hc' ⊢
      rcases h.told ip hne hr c hc' with hr' | hu | hb
      · exact .inl (hres ip hne hr')
      · exact .inr (.inl hu)
      · exact .inr (.inr (hnone ip hb))
    · exact h.told ip hne hr c' hc'

/-- A core only enqueues messages. -/
theorem ResolveInv.send (h : ResolveInv env s) {c : Nat} {fcq : Fifo FcMsg}
    (hfc : ∀ m, m ∈ (s.fcQs c).items → m ∈ fcq.items) : ResolveInv env (s.setFcQ c fcq) := by
  have hsame : s.setTable c (s.tables c) = s := by
    unfold setTable
    have : (fun c' => if c' = c then s.tables c else s.tables c') = s.tables := by
      funext c'
      split
      · next hc => rw [hc]
      · rfl
    rw [this]
  have := h.core (h.tables c) (fun ip hp => .inl hp) hfc (fun _ _ hr => hr) (fun _ hb => hb)
  rw [hsame] at this
  exact this

theorem pendMbuf_mem {fcq : Fifo FcMsg} (ip : UInt32) (p : MbufTx) {m : FcMsg}
    (h : m ∈ fcq.items) : m ∈ (pendMbuf fcq ip p).1.items := by
  unfold pendMbuf
  split
  · exact h
  · next q hpush => exact (Fifo.mem_push hpush).mpr (.inl h)

/-- An entry that was not resolved is marked pending. -/
theorem pend_keeps {t : ArpTable} (ht : TableInv t) {ip : UInt32} {b : Nat}
    (hl : arpLookup t ip = none) (hb : arpBucket t ip = some b) {e : ArpTableEntry}
    (he : e.ip = ip) :
    TableInv (t.set b e) ∧
    (∀ ip', Pending (t.set b e) ip' → Pending t ip' ∨ ip' = ip) ∧
    (∀ ip', ip' ≠ arpIpEmpty → Resolved t ip' → Resolved (t.set b e) ip') ∧
    (∀ ip', arpBucket t ip' = none → arpBucket (t.set b e) ip' = none) := by
  have hne := unknown_ne hl hb
  have hinv := ht.set hb he hne
  refine ⟨hinv, fun ip' hp => ?_, fun ip' hne' hr => ?_, fun ip' hb' => ?_⟩
  · by_cases hip : ip' = ip
    · exact .inr hip
    · exact .inl ((ht.pending_set_iff hb he (hinv.pending_ne hp) hip).mp hp)
  · have hip : ip' ≠ ip := by
      rintro rfl
      obtain ⟨b', hb', -⟩ := hr
      rw [hl] at hb'
      cases hb'
    exact (ht.resolved_set_iff hb he hne' hip).mpr hr
  · have hip : ip' ≠ ip := by
      rintro rfl
      rw [hb] at hb'
      cases hb'
    exact arpBucket_none_set hb he hb'

/-- `process_tx_arp`. -/
theorem ResolveInv.infraTx (h : ResolveInv env s) {c : Nat} {p : MbufTx}
    (hok : AskRoom env s c p) : ResolveInv env (s.infraTx env c p) := by
  unfold ArpSys.infraTx
  cases hip : env.remoteIp p with
  | none => exact h
  | some ip =>
    dsimp only
    unfold processTxArp
    unfold AskRoom at hok
    rw [hip] at hok
    cases hl : arpLookup (s.tables c) ip with
    | some b =>
      dsimp only
      split
      · exact h.core (h.tables c) (fun ip' hp => .inl hp) (fun m hm => pendMbuf_mem ip p hm)
          (fun _ _ hr => hr) (fun _ hb => hb)
      · exact h.core (h.tables c) (fun ip' hp => .inl hp) (fun m hm => hm)
          (fun _ _ hr => hr) (fun _ hb => hb)
    | none =>
      dsimp only
      unfold arpInsertPending
      cases hb : arpBucket (s.tables c) ip with
      | none =>
        exact h.core (h.tables c) (fun ip' hp => .inl hp) (fun m hm => hm) (fun _ _ hr => hr)
          (fun _ hb => hb)
      | some b =>
        dsimp only
        have hr := hok hl (by rw [hb]; exact Option.some_ne_none b)
        have hpush := Fifo.push_of_room hr (.arpLookup ip)
        rw [hpush]
        dsimp only
        obtain ⟨htab, hpend, hres, hnone⟩ := pend_keeps (h.tables c) hl hb
          (show ({ (s.tables c).buckets b with ip, pending := true } : ArpTableEntry).ip = ip
            from rfl)
        -- the new pending entry has its lookup in the queue
        refine h.core htab (fun ip' hp => ?_) (fun m hm => ?_) hres hnone
        · rcases hpend ip' hp with hp | rfl
          · exact .inl hp
          · exact .inr (pendMbuf_mem ip' p ((Fifo.mem_push hpush).mpr (.inr rfl)))
        · exact pendMbuf_mem ip p ((Fifo.mem_push hpush).mpr (.inl hm))

/-- A core takes a message that is not an update. -/
theorem ResolveInv.popCf (h : ResolveInv env s) {c : Nat} {msg : CfMsg}
    (hhead : (s.cfQ c).head? = some msg) (hmsg : ∀ ip mac, msg ≠ .arpUpdate ip mac) :
    ResolveInv env (s.setCfQ c (s.cfQ c).pop) := by
  have hq : ∀ c', (s.setCfQ c (s.cfQ c).pop).cfQ c' =
      if c' = c then (s.cfQ c).pop else s.cfQ c' := fun _ => rfl
  refine ⟨h.ctlTable, h.tables, h.wf, h.timers, h.known, ?_, ?_⟩
  · intro ip hne hr c' hc'
    rcases h.told ip hne hr c' hc' with hr' | ⟨mac, hu⟩ | hb
    · exact .inl hr'
    · refine .inr (.inl ⟨mac, ?_⟩)
      rw [hq]
      split
      · next hcc =>
        rw [hcc, Fifo.head_cons hhead] at hu
        exact (List.mem_cons.mp hu).resolve_left fun he => hmsg ip mac he.symm
      · exact hu
    · exact .inr (.inr hb)
  · intro c' ip mac hu
    rw [hq] at hu
    split at hu
    · next hcc => exact h.updates c ip mac (Fifo.pop_mem hu)
    · exact h.updates c' ip mac hu

/-- A core takes an update: the address is resolved there, or has no bucket. -/
theorem ResolveInv.update (h : ResolveInv env s) {c : Nat} {ip : UInt32} {mac : EthAddr}
    (hhead : (s.cfQ c).head? = some (.arpUpdate ip mac)) :
    ResolveInv env ((s.setCfQ c (s.cfQ c).pop).setTable c (arpInsert (s.tables c) ip mac).1) := by
  have hne := h.updates c ip mac (Fifo.head_mem hhead)
  have hcons := Fifo.head_cons hhead
  generalize ht' : (arpInsert (s.tables c) ip mac).1 = t'
  -- what the insertion does to the table of the core
  have htab : TableInv t' ∧ (Resolved t' ip ∨ arpBucket t' ip = none) ∧
      (∀ ip', Pending t' ip' → Pending (s.tables c) ip') ∧
      (∀ ip', ip' ≠ arpIpEmpty → ip' ≠ ip → Resolved (s.tables c) ip' → Resolved t' ip') ∧
      (∀ ip', ip' ≠ ip → arpBucket (s.tables c) ip' = none → arpBucket t' ip' = none) := by
    rw [← ht']
    unfold arpInsert
    cases hb : arpBucket (s.tables c) ip with
    | none =>
      exact ⟨h.tables c, .inr hb, fun _ hp => hp, fun _ _ _ hr => hr, fun _ _ hb' => hb'⟩
    | some b =>
      dsimp only
      have he : ({ (s.tables c).buckets b with ip, pending := false, mac } : ArpTableEntry).ip = ip :=
        rfl
      have hinv := (h.tables c).set hb he hne
      have hres : Resolved ((s.tables c).set b
          { (s.tables c).buckets b with ip, pending := false, mac }) ip :=
        ⟨b, arpLookup_set hb he, by rw [ArpTable.set_same]⟩
      refine ⟨hinv, .inl hres, fun ip' hp => ?_, fun ip' hne' hip hr => ?_, fun ip' hip hb' => ?_⟩
      · have hip : ip' ≠ ip := by
          rintro rfl
          exact not_pending_of_resolved hres hp
        exact ((h.tables c).pending_set_iff hb he (hinv.pending_ne hp) hip).mp hp
      · exact ((h.tables c).resolved_set_iff hb he hne' hip).mpr hr
      · exact arpBucket_none_set hb he hb'
  obtain ⟨hinv, hdone, hpend, hres, hnone⟩ := htab
  have htables : ∀ c', ((s.setCfQ c (s.cfQ c).pop).setTable c t').tables c' =
      if c' = c then t' else s.tables c' := fun _ => rfl
  have hq : ∀ c', ((s.setCfQ c (s.cfQ c).pop).setTable c t').cfQ c' =
      if c' = c then (s.cfQ c).pop else s.cfQ c' := fun _ => rfl
  refine ⟨h.ctlTable, ?_, h.wf, h.timers, ?_, ?_, ?_⟩
  · intro c'
    rw [htables]
    split
    · exact hinv
    · exact h.tables c'
  · intro c' hc' ip' hp
    rw [htables] at hp
    split at hp
    · next hcc =>
      rw [hcc] at hc' ⊢
      exact h.known c hc' ip' (hpend ip' hp)
    · exact h.known c' hc' ip' hp
  · intro ip' hne' hr c' hc'
    rw [htables, hq]
    split
    · next hcc =>
      rw [hcc] at hc'
      by_cases hip : ip' = ip
      · rw [hip]
        exact hdone.imp id .inr
      · rcases h.told ip' hne' hr c hc' with hr' | ⟨mac', hu⟩ | hb
        · exact .inl (hres ip' hne' hip hr')
        · rw [hcons] at hu
          refine .inr (.inl ⟨mac', (List.mem_cons.mp hu).resolve_left fun heq => ?_⟩)
          cases heq
          exact hip rfl
        · exact .inr (.inr (hnone ip' hip hb))
    · exact h.told ip' hne' hr c' hc'
  · intro c' ip' mac' hu
    rw [hq] at hu
    split at hu
    · exact h.updates c ip' mac' (Fifo.pop_mem hu)
    · exact h.updates c' ip' mac' hu

theorem ResolveInv.coreMsg (h : ResolveInv env s) {c : Nat} {txFull : Bool} {msg : CfMsg}
    (hhead : (s.cfQ c).head? = some msg)
    (hok : ∀ p, (s.cfQ c).head? = some (.mbufTx p) → txFull = false → AskRoom env s c p) :
    ResolveInv env ((s.setCfQ c (s.cfQ c).pop).coreHandle env c txFull msg) := by
  cases msg with
  | arpUpdate ip mac => exact h.update hhead
  | mbufTx p =>
    have hpop := h.popCf hhead (fun _ _ => nofun)
    unfold coreHandle
    dsimp only
    split
    · exact hpop
    · next hfull => exact hpop.infraTx (hok p hhead (Bool.not_eq_true _ ▸ hfull))
  | arpTxPkt =>
    have hpop := h.popCf hhead (fun _ _ => nofun)
    unfold coreHandle
    dsimp only
    split
    · exact ⟨hpop.ctlTable, hpop.tables, hpop.wf, hpop.timers, hpop.known, hpop.told,
        hpop.updates⟩
    · exact hpop
  | other => exact h.popCf hhead (fun _ _ => nofun)

/-! ## Steps of the control path -/

/-- The control path changes its table and timers and sends messages. -/
theorem ResolveInv.control (h : ResolveInv env s) {ctl : ControlArp}
    (htab : TableInv ctl.arpTable) (hwf : ctl.tomgr.Wf)
    (htim : PendingTimers ctl.arpTable ctl.tomgr)
    (hknown : ∀ ip, ip ≠ arpIpEmpty → arpLookup s.ctl.arpTable ip ≠ none →
      arpLookup ctl.arpTable ip ≠ none)
    (hqs : ∀ c m, m ∈ (s.cfQ c).items → m ∈ (ctl.ctlFastQs c).items)
    (hupd : ∀ c ip mac, .arpUpdate ip mac ∈ (ctl.ctlFastQs c).items →
      .arpUpdate ip mac ∈ (s.cfQ c).items ∨ ip ≠ arpIpEmpty)
    (htold : ∀ ip, ip ≠ arpIpEmpty → Resolved ctl.arpTable ip → Resolved s.ctl.arpTable ip ∨
      ∀ c, c < env.cfg.fpCoresMax → ∃ mac, .arpUpdate ip mac ∈ (ctl.ctlFastQs c).items) :
    ResolveInv env { s with ctl } := by
  refine ⟨htab, h.tables, hwf, htim, ?_, ?_, ?_⟩
  · intro c hc ip hp
    exact (h.known c hc ip hp).imp id (hknown ip ((h.tables c).pending_ne hp))
  · intro ip hne hr c hc
    rcases htold ip hne hr with hr' | hall
    · rcases h.told ip hne hr' c hc with ht | ⟨mac, hu⟩ | hb
      · exact .inl ht
      · exact .inr (.inl ⟨mac, hqs c _ hu⟩)
      · exact .inr (.inr hb)
    · exact .inr (.inl (hall c hc))
  · intro c ip mac hu
    rcases hupd c ip mac hu with hu' | hne
    · exact h.updates c ip mac hu'
    · exact hne

/-- The same when the table stays and what is sent is no update. -/
theorem ResolveInv.quiet (h : ResolveInv env s) {ctl : ControlArp}
    (htab : ctl.arpTable = s.ctl.arpTable) (hm : ctl.tomgr = s.ctl.tomgr)
    {f : Nat → List CfMsg} (hadd : Adds s.ctl.ctlFastQs ctl.ctlFastQs f)
    (hf : ∀ c ip mac, .arpUpdate ip mac ∉ f c) : ResolveInv env { s with ctl } := by
  refine h.control (by rw [htab]; exact h.ctlTable) (by rw [hm]; exact h.wf)
    (by rw [htab, hm]; exact h.timers) (fun ip _ hk => by rw [htab]; exact hk)
    (fun c m hmem => hadd.mem hmem) (fun c ip mac hu => ?_)
    (fun ip _ hr => .inl (by rw [← htab]; exact hr))
  rw [hadd c] at hu
  exact .inl ((List.mem_append.mp hu).resolve_right (hf c ip mac))

/-- `control_arp_lookup`. -/
theorem ResolveInv.lookup (h : ResolveInv env s) {ip : UInt32} {after : UInt64}
    {ctl : ControlArp} (hok : ActRoom env s.ctl (.arpLookup ip))
    (hs : s.ctl.controlArpLookup env.cfg ip after = some ctl) :
    ResolveInv env { s with ctl } ∧ (ip ≠ arpIpEmpty → arpLookup ctl.arpTable ip ≠ none) := by
  rcases controlArpLookup_cases hs with
    ⟨⟨b, hb⟩, rfl⟩ | ⟨hl, ⟨hb, -⟩ | ⟨b, hb, ⟨hfail, -⟩ | ⟨tomgr, te, hins, rfl⟩⟩⟩
  · exact ⟨h, fun _ => by rw [hb]; exact Option.some_ne_none b⟩
  · exact absurd hb (hok hl).1
  · obtain ⟨-, htx, hcf, hfree⟩ := hok hl
    rw [hfail (request_of_room ip htx hcf)] at hfree
    cases hfree
  · have hin := Tomgr.tomgrInsert_some h.wf hins
    obtain ⟨f, hadd, hsig⟩ := request_adds env.cfg s.ctl ip
    have he : ({ s.ctl.arpTable.buckets b with ip, pending := true, te := some te } :
        ArpTableEntry).ip = ip := rfl
    have hne := unknown_ne hl hb
    have hfound : arpLookup (armTable s.ctl.arpTable b ip te) ip = some b := arpLookup_set hb he
    refine ⟨h.control (h.ctlTable.set hb he hne) hin.wf ?_ ?_ (fun c m hm => hadd.mem hm) ?_ ?_, ?_⟩
    · refine h.timers.arm hin ?_ (fun b' hbb => ArpTable.set_ne _ _ hbb)
      show (((s.ctl.arpTable.set b _).buckets b).te) = some te
      rw [ArpTable.set_same]
    · exact fun ip' hne' hk => known_set hb he hne' hk
    · intro c ip' mac hu
      have hu' : .arpUpdate ip' mac ∈ ((s.ctl.request env.cfg ip).1.ctlFastQs c).items := hu
      rw [hadd c] at hu'
      refine .inl ((List.mem_append.mp hu').resolve_right fun hm => ?_)
      cases hsig c _ hm
    · intro ip' hne' hr
      have hip : ip' ≠ ip := by
        rintro rfl
        obtain ⟨b', hb', hp⟩ := hr
        rw [show arpLookup _ ip' = some b from hfound] at hb'
        cases hb'
        change ((s.ctl.arpTable.set b _).buckets b).pending = false at hp
        rw [ArpTable.set_same] at hp
        cases hp
      exact .inl ((h.ctlTable.resolved_set_iff hb he hne' hip).mp hr)
    · intro _
      rw [show arpLookup _ ip = some b from hfound]
      exact Option.some_ne_none b

/-- What `update_arp_fast` and the flush send. -/
theorem publish_adds (cfg : ArpConfig) (ctx : ControlArp) (ip : UInt32) (mac : EthAddr) :
    ∃ f, Adds ctx.ctlFastQs (ctx.publish cfg ip mac).1.ctlFastQs f ∧
      (∀ c ip' mac', .arpUpdate ip' mac' ∈ f c → ip' = ip) ∧
      ((∀ c, c < cfg.fpCoresMax → (ctx.ctlFastQs c).hasRoom = true) →
        ∀ c, c < cfg.fpCoresMax → .arpUpdate ip mac ∈ f c) := by
  obtain ⟨f, hadd, honly, hall⟩ := updateLoop_adds ip mac cfg.fpCoresMax 0 ctx.ctlFastQs
  have hroom : (∀ c, c < cfg.fpCoresMax → (ctx.ctlFastQs c).hasRoom = true) →
      ∀ c, c < cfg.fpCoresMax → .arpUpdate ip mac ∈ f c := by
    intro hr c hc
    exact hall (updateLoop_room ip mac _ 0 _ fun c _ hn => hr c (by omega)) c (Nat.zero_le c)
      (by omega)
  have hsame : ∀ c ip' mac', .arpUpdate ip' mac' ∈ f c → ip' = ip := by
    intro c ip' mac' hm
    cases honly c _ hm
    rfl
  unfold publish updateArpFast
  dsimp only
  split
  · exact ⟨f, hadd, hsame, hroom⟩
  · obtain ⟨g, hadd', hflush⟩ := flushLoop_adds ip ctx.arpBuf.entries
      (updateLoop ip mac cfg.fpCoresMax 0 ctx.ctlFastQs).1
    refine ⟨_, hadd.trans hadd', fun c ip' mac' hm => ?_, fun hr c hc => ?_⟩
    · rcases List.mem_append.mp hm with hm | hm
      · exact hsame c ip' mac' hm
      · obtain ⟨e, -, -, -, heq⟩ := hflush c _ hm
        cases heq
    · exact List.mem_append_left _ (hroom hr c hc)

/-- An address is resolved and published. -/
theorem ResolveInv.solve (h : ResolveInv env s) {ip : UInt32} {mac : EthAddr} {b : Nat}
    {te : Option Nat} {tomgr : Tomgr (Option Nat)} (hb : arpBucket s.ctl.arpTable ip = some b)
    (hne : ip ≠ arpIpEmpty) (hroom : RoomAll env s.ctl) (hwf : tomgr.Wf)
    (htim : PendingTimers (solveTable s.ctl.arpTable b ip mac te) tomgr) :
    ResolveInv env { s with
      ctl := ({ s.ctl with
        arpTable := solveTable s.ctl.arpTable b ip mac te
        tomgr := tomgr : ControlArp }.publish env.cfg ip mac).1 } := by
  have he : ({ ip, pending := false, mac, te } : ArpTableEntry).ip = ip := rfl
  obtain ⟨f, hadd, honly, hall⟩ := publish_adds env.cfg { s.ctl with
    arpTable := solveTable s.ctl.arpTable b ip mac te
    tomgr := tomgr } ip mac
  refine h.control ?_ ?_ ?_ ?_ (fun c m hm => hadd.mem hm) ?_ ?_
  · rw [publish_table]
    exact h.ctlTable.set hb he hne
  · rw [publish_tomgr]
    exact hwf
  · rw [publish_table, publish_tomgr]
    exact htim
  · intro ip' hne' hk
    rw [publish_table]
    exact known_set hb he hne' hk
  · intro c ip' mac' hu
    rw [hadd c] at hu
    refine (List.mem_append.mp hu).imp id fun hm => ?_
    rw [honly c ip' mac' hm]
    exact hne
  · intro ip' hne' hr
    rw [publish_table] at hr
    by_cases hip : ip' = ip
    · refine .inr fun c hc => ⟨mac, ?_⟩
      rw [hip, hadd c]
      exact List.mem_append_right _ (hall hroom c hc)
    · exact .inl ((h.ctlTable.resolved_set_iff hb he hne' hip).mp hr)

/-- One message of a core at the control path. -/
theorem ResolveInv.handle (h : ResolveInv env s) {c : Nat} {msg : FcMsg} {after : UInt64}
    {ctl : ControlArp} (hok : ActRoom env s.ctl msg)
    (hs : s.ctl.handle env.cfg c msg after = some ctl) :
    ResolveInv env { s with ctl } ∧
      ∀ ip, msg = .arpLookup ip → ip ≠ arpIpEmpty → arpLookup ctl.arpTable ip ≠ none := by
  cases msg with
  | arpLookup ip =>
    obtain ⟨hinv, hk⟩ := h.lookup hok hs
    refine ⟨hinv, fun ip' heq => ?_⟩
    cases heq
    exact hk
  | mbufPending ip p =>
    refine ⟨?_, fun _ => nofun⟩
    cases hs
    obtain ⟨ht, hm⟩ := controlArpMbuf_table s.ctl ip p c
    have hadd : ∃ f, Adds s.ctl.ctlFastQs (s.ctl.controlArpMbuf ip p c).ctlFastQs f ∧
        ∀ c ip mac, .arpUpdate ip mac ∉ f c := by
      unfold controlArpMbuf
      split
      · split
        · exact ⟨_, Adds.refl _, fun _ _ _ => List.not_mem_nil⟩
        · next q hpush =>
          refine ⟨_, Adds.push hpush, fun c' ip' mac' hu => ?_⟩
          split at hu
          · cases List.mem_singleton.mp hu
          · exact absurd hu List.not_mem_nil
      · split
        · exact ⟨_, Adds.refl _, fun _ _ _ => List.not_mem_nil⟩
        · exact ⟨_, Adds.refl _, fun _ _ _ => List.not_mem_nil⟩
    obtain ⟨f, hadd, hf⟩ := hadd
    exact h.quiet ht hm hadd hf
  | arpRxReq spa tpa sha =>
    refine ⟨?_, fun _ => nofun⟩
    cases hs
    have hreply : ∀ {s' : ArpSys}, ResolveInv env s' →
        ResolveInv env { s' with ctl := s'.ctl.reply env.cfg sha spa } := by
      intro s' h'
      obtain ⟨f, hadd, hsig⟩ := reply_adds env.cfg s'.ctl sha spa
      exact h'.quiet rfl rfl hadd fun c ip mac hu => nomatch hsig c _ hu
    rcases controlArpReq_cases env.cfg s.ctl spa tpa sha with heq | heq | ⟨b, hres, hb, htpa, heq⟩
    · rw [heq]
      exact h
    · rw [heq]
      exact hreply h
    · rw [heq]
      have hne := h.ctlTable.unresolved_ne hres hb
      have hroom := hok ⟨htpa, hres, by rw [hb]; exact Option.some_ne_none b⟩
      have hsolve := @ResolveInv.solve env s h spa sha b _ s.ctl.tomgr hb hne hroom h.wf
        (h.timers.solve b spa sha (s.ctl.arpTable.buckets b).te)
      dsimp only
      split
      · exact hsolve
      · exact hreply hsolve
  | arpRxRep spa sha tpa tha =>
    refine ⟨?_, fun _ => nofun⟩
    rcases controlArpRep_cases hs with rfl | ⟨b, hlocal, hl, hp, rfl⟩
    · exact h
    · obtain ⟨htim, hwf⟩ := h.timers.cancel h.wf (arpLookup_ip hl).2 hp spa sha
      have hpend : Pending s.ctl.arpTable spa := ⟨b, hl, hp⟩
      exact h.solve (arpBucket_of_lookup hl) (h.ctlTable.pending_ne hpend)
        (hok ⟨hlocal, hpend⟩) hwf htim

/-- The control path is done with the message at the head. -/
theorem ResolveInv.popFc (h : ResolveInv env s) {c : Nat} {msg : FcMsg}
    (hhead : (s.fcQs c).head? = some msg)
    (hdone : ∀ ip, msg = .arpLookup ip → ip ≠ arpIpEmpty → arpLookup s.ctl.arpTable ip ≠ none) :
    ResolveInv env (s.setFcQ c (s.fcQs c).pop) := by
  refine ⟨h.ctlTable, h.tables, h.wf, h.timers, ?_, h.told, h.updates⟩
  intro c' hc' ip hp
  have hq : (s.setFcQ c (s.fcQs c).pop).fcQs c' =
      if c' = c then (s.fcQs c).pop else s.fcQs c' := rfl
  rw [hq]
  split
  · next hcc =>
    rw [hcc] at hc' hp
    rcases h.known c hc' ip hp with hm | hk
    · rw [Fifo.head_cons hhead] at hm
      rcases List.mem_cons.mp hm with heq | hm
      · exact .inr (hdone ip heq.symm ((h.tables c).pending_ne hp))
      · exact .inl hm
    · exact .inr hk
  · exact h.known c' hc' ip hp

/-- One iteration of `poll_timeouts`. -/
theorem ResolveInv.timeout (h : ResolveInv env s) {clk : Clock} {ctl : ControlArp}
    (hok : ResolveOk env s (.timeout clk)) (hs : s.ctl.pollTimeout env.cfg clk = some ctl) :
    ResolveInv env { s with ctl } := by
  rcases pollTimeout_cases hs with rfl | ⟨te, b, hpk, hto, hdata, hcase⟩
  · exact h
  have hpos : 0 < s.ctl.tomgr.size ∧ (s.ctl.tomgr.heap 0).idx = te := Tomgr.peek_root hpk
  obtain ⟨hpos, hroot⟩ := hpos
  have hpop := (Tomgr.tomgrPop_removed h.wf hpos).2
  rw [hroot] at hpop
  -- a pending entry other than `b` points to another timer
  have hother : ∀ b', b' < arpTableSize → b' ≠ b → (s.ctl.arpTable.buckets b').pending = true →
      (s.ctl.arpTable.buckets b').te ≠ some te := by
    intro b' hb' hne hp he
    obtain ⟨e, hte, -, hd⟩ := h.timers b' hb' hp
    rw [he] at hte
    cases hte
    rw [hdata] at hd
    exact hne (Option.some.inj hd).symm
  rcases hcase with ⟨hpend, rfl⟩ | ⟨hpend, ⟨hfail, rfl⟩ | ⟨tomgr, te', hins, rfl⟩⟩
  · refine h.control h.ctlTable hpop.wf (h.timers.remove hpop fun b' hb' hp => ?_)
      (fun _ _ hk => hk) (fun _ _ hm => hm) (fun _ _ _ hu => .inl hu) (fun _ _ hr => .inl hr)
    refine hother b' hb' ?_ hp
    rintro rfl
    rw [hpend] at hp
    cases hp
  · obtain ⟨htx, hcf, hfree⟩ := hok te hpk hto b hdata hpend
    rw [hfail (request_of_room _ htx hcf)] at hfree
    cases hfree
  · have hin := Tomgr.tomgrInsert_some h.wf hins
    obtain ⟨f, hadd, hsig⟩ := request_adds env.cfg s.ctl (s.ctl.arpTable.buckets b).ip
    have hstamp : (s.ctl.tomgr.heap 0).timeout ≤ clk.after := by
      rw [← h.wf.stamp 0 hpos, hroot]
      exact UInt64.le_trans (UInt64.le_of_lt hto) clk.mono
    have hpos' : 0 < tomgr.size := by
      rw [hin.size]
      omega
    have hpop' := (Tomgr.tomgrPop_removed hin.wf hpos').2
    rw [hin.root hpos hstamp, hroot] at hpop'
    have hsame : SameStatus s.ctl.arpTable
        (s.ctl.arpTable.set b { s.ctl.arpTable.buckets b with te := some te' }) :=
      sameStatus_te s.ctl.arpTable b (some te')
    have harm : PendingTimers
        (s.ctl.arpTable.set b { s.ctl.arpTable.buckets b with te := some te' }) tomgr :=
      h.timers.arm hin (by rw [ArpTable.set_same]) (fun b' hbb => ArpTable.set_ne _ _ hbb)
    refine h.control (hsame.inv h.ctlTable) hpop'.wf ?_ ?_ (fun c m hm => hadd.mem hm) ?_ ?_
    · refine harm.remove hpop' fun b' hb' hp he => ?_
      by_cases hbb : b' = b
      · rw [hbb, ArpTable.set_same] at he
        exact hin.fresh ((Option.some.inj he : te' = te) ▸ ⟨0, hpos, hroot⟩)
      · rw [ArpTable.set_ne _ _ hbb] at hp he
        exact hother b' hb' hbb hp he
    · intro ip _ hk
      show arpLookup (s.ctl.arpTable.set b _) ip ≠ none
      rw [hsame.lookup]
      exact hk
    · intro c ip mac hu
      have hu' : .arpUpdate ip mac ∈
          ((s.ctl.request env.cfg (s.ctl.arpTable.buckets b).ip).1.ctlFastQs c).items := hu
      rw [hadd c] at hu'
      refine .inl ((List.mem_append.mp hu').resolve_right fun hm => ?_)
      cases hsig c _ hm
    · exact fun ip _ hr => .inl (hsame.resolved hr)

/-! ## Runs -/

theorem processRxArp_mem {fcq : Fifo FcMsg} (pkt : ArpPkt) {m : FcMsg} (h : m ∈ fcq.items) :
    m ∈ (processRxArp fcq pkt).items := by
  have hpush : ∀ x, m ∈ ((fcq.push x).getD fcq).items := by
    intro x
    cases hp : fcq.push x with
    | none => exact h
    | some q => exact (Fifo.mem_push hp).mpr (.inl h)
  unfold processRxArp
  split
  · exact hpush _
  · split
    · exact hpush _
    · exact h

theorem ResolveInv.step (h : ResolveInv env s) {a : ArpAct} (hok : ResolveOk env s a) :
    ResolveInv env (s.step env a).1 := by
  cases a with
  | tx c p =>
    unfold ArpSys.step
    dsimp only
    split
    · exact h.infraTx hok
    · exact h
  | rxArp c pkt =>
    unfold ArpSys.step
    dsimp only
    split
    · exact h.send fun m hm => processRxArp_mem pkt hm
    · exact h
  | coreMsg c txFull =>
    unfold ArpSys.step
    dsimp only
    split
    · cases hhead : (s.cfQ c).head? with
      | none => exact h
      | some msg => exact h.coreMsg hhead hok
    · exact h
  | ctlMsg c after =>
    unfold ArpSys.step
    dsimp only
    split
    · cases hhead : (s.fcQs c).head? with
      | none => exact h
      | some msg =>
        dsimp only
        cases hs : s.ctl.handle env.cfg c msg after with
        | none => exact h
        | some ctl =>
          obtain ⟨hinv, hdone⟩ := h.handle (hok msg hhead) hs
          exact hinv.popFc hhead hdone
    · exact h
  | timeout clk =>
    unfold ArpSys.step
    dsimp only
    cases hs : s.ctl.pollTimeout env.cfg clk with
    | none => exact h
    | some ctl => exact h.timeout hok hs
  | other c =>
    unfold ArpSys.step
    dsimp only
    cases hpush : (s.cfQ c).push .other with
    | none => exact h
    | some q =>
      refine h.quiet rfl rfl (Adds.push hpush) fun c' ip mac hu => ?_
      split at hu
      · cases List.mem_singleton.mp hu
      · exact absurd hu List.not_mem_nil

theorem ArpSys.Init.resolveInv {s₀ : ArpSys} (h : Init s₀) : ResolveInv env s₀ := by
  obtain ⟨mem, htab⟩ := h.table
  obtain ⟨mgr, hmgr⟩ := h.tomgr
  have hno : ∀ (t : ArpTable), (∃ mem, t = ArpTable.arpTableInit mem) → ∀ ip, ¬ Pending t ip := by
    rintro t ⟨mem, rfl⟩ ip ⟨b, -, hp⟩
    cases hp
  refine ⟨?_, ?_, ?_, ?_, ?_, ?_, ?_⟩
  · rw [htab]
    exact arpTableInit_inv mem
  · intro c
    obtain ⟨mem', ht⟩ := h.tables c
    rw [ht]
    exact arpTableInit_inv mem'
  · rw [hmgr]
    exact Tomgr.tomgrInit_wf mgr
  · intro b _ hp
    rw [htab] at hp
    cases hp
  · intro c _ ip hp
    exact absurd hp (hno _ (h.tables c) ip)
  · rintro ip hne ⟨b, hb, -⟩
    rw [htab, arpLookup_init mem hne] at hb
    cases hb
  · intro c ip mac hu
    rw [h.cfQs c] at hu
    exact absurd hu List.not_mem_nil

end

/-- The control path has a live timer for `ip`. -/
def HasTimer (ctl : ControlArp) (ip : UInt32) : Prop :=
  ∃ b e, arpLookup ctl.arpTable ip = some b ∧ ctl.tomgr.Live e ∧
    (ctl.tomgr.entries e).data = some b

/-- Somebody is at work on every address a core waits for, and every core
that waits for an address the control path knows is being told. -/
structure Progress (env : ArpEnv) (s : ArpSys) : Prop where
  atWork : ∀ c, c < env.cfg.fpCoresMax → ∀ ip, Pending (s.tables c) ip →
    .arpLookup ip ∈ (s.fcQs c).items ∨
      (Pending s.ctl.arpTable ip ∧ HasTimer s.ctl ip) ∨
      ∃ mac, .arpUpdate ip mac ∈ (s.cfQ c).items
  told : ∀ ip, Resolved s.ctl.arpTable ip → ∀ c, c < env.cfg.fpCoresMax →
    Pending (s.tables c) ip → ∃ mac, .arpUpdate ip mac ∈ (s.cfQ c).items

theorem ResolveInv.progress {env : ArpEnv} {s : ArpSys} (h : ResolveInv env s) :
    Progress env s := by
  have htold : ∀ ip, Resolved s.ctl.arpTable ip → ∀ c, c < env.cfg.fpCoresMax →
      Pending (s.tables c) ip → ∃ mac, .arpUpdate ip mac ∈ (s.cfQ c).items := by
    intro ip hr c hc hp
    rcases h.told ip ((h.tables c).pending_ne hp) hr c hc with hr' | hu | hb
    · exact absurd hp (not_pending_of_resolved hr')
    · exact hu
    · obtain ⟨b, hl, -⟩ := hp
      rw [arpBucket_of_lookup hl] at hb
      cases hb
  refine ⟨fun c hc ip hp => ?_, htold⟩
  rcases h.known c hc ip hp with hm | hk
  · exact .inl hm
  · rcases pending_or_resolved hk with hp' | hr
    · obtain ⟨b, hl, hpend⟩ := hp'
      obtain ⟨e, -, hlive, hdata⟩ := h.timers b (arpLookup_ip hl).2 hpend
      exact .inr (.inl ⟨⟨b, hl, hpend⟩, b, e, hl, hlive, hdata⟩)
    · exact .inr (.inr (htold ip hr c hc hp))

/-- **ARP resolution never gets stuck** in a run none of whose steps fails
half-way. -/
theorem arp_resolution_progress {env : ArpEnv} {s₀ s : ArpSys} {log : List ArpObs}
    (h₀ : ArpSys.Init s₀) (hr : Run (ResolveOk env) (ArpSys.step env) s₀ log s) :
    Progress env s :=
  (Run.inv (I := fun _ s => ResolveInv env s) h₀.resolveInv
    (fun _ _ _ h hok => h.step hok) hr).progress

/-! ## An address nobody works on -/

instance (env : ArpEnv) (s : ArpSys) (a : ArpAct) : Decidable (ResolveOk env s a) := by
  unfold ResolveOk
  split
  · infer_instance
  · next c txFull =>
    exact match h : (s.cfQ c).head? with
      | some (.mbufTx p) =>
        decidable_of_iff (txFull = false → AskRoom env s c p)
          ⟨fun ha p' hp => by cases hp; exact ha, fun ha => ha p rfl⟩
      | some (.arpUpdate ip mac) => .isTrue nofun
      | some .arpTxPkt => .isTrue nofun
      | some .other => .isTrue nofun
      | none => .isTrue nofun
  · infer_instance
  · infer_instance
  · infer_instance
  · infer_instance

/-- Two cores; a packet goes to the address its mbuf is numbered with. -/
def twoCores : ArpEnv where
  cfg := { fpCoresMax := 2, ip := 9, ethAddr := ⟨2, 0, 0, 0, 0, 1⟩ }
  remoteIp p := some (UInt32.ofNat p.mb)

/-- Both cores send to host 5, and its reply is handled. -/
def resolveRun : List ArpAct :=
  [.tx 0 ⟨0, 60, 5⟩, .tx 1 ⟨0, 60, 5⟩, .ctlMsg 0 10, .ctlMsg 1 10, .rxArp 0 replyOf5,
    .ctlMsg 0 0, .ctlMsg 0 0]

/-- Core 1 still has the address pending, with the update on its way. -/
theorem arp_resolution_progress_two :
    Pending ((execAll (ArpSys.step twoCores) resolveRun (freshArp 4)).2.tables 1) 5 ∧
      Resolved (execAll (ArpSys.step twoCores) resolveRun (freshArp 4)).2.ctl.arpTable 5 ∧
      Progress twoCores (execAll (ArpSys.step twoCores) resolveRun (freshArp 4)).2 := by
  have hrun := @Run.execOk _ _ _ (ResolveOk twoCores) _ (ArpSys.step twoCores) (freshArp 4)
    resolveRun _ _ Run.nil (by decide)
  exact ⟨by decide, by decide, arp_resolution_progress (freshArp_init 4) hrun⟩

/-- Three packets to host 4 fill core 0's queue of four entries; a packet to
host 5 marks it pending and cannot be asked for. -/
def stuckRun : List ArpAct :=
  [.tx 0 ⟨0, 60, 4⟩, .tx 0 ⟨0, 60, 4⟩, .tx 0 ⟨0, 60, 4⟩, .tx 0 ⟨0, 60, 5⟩]

/-- The state of that run. -/
def stuckState : ArpSys := (execAll (ArpSys.step twoCores) stuckRun (freshArp 4)).2

/-- Host 5 is pending on core 0, and nobody is at work on it. -/
theorem arp_resolution_stuck :
    Pending (stuckState.tables 0) 5 ∧ .arpLookup 5 ∉ (stuckState.fcQs 0).items ∧
      ¬ Pending stuckState.ctl.arpTable 5 ∧ (stuckState.cfQ 0).items = [] := by
  decide

end Chamelio.Arp
