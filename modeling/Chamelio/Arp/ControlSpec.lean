import Chamelio.Arp.Control

/-!
# What a step of the control path can do

One lemma for each function of `control_arp.c` that lists its outcomes, with
the state each leaves written out. What the table, the timers and the queues
keep is derived from these lists alone.
-/

namespace Chamelio.Arp

open Chamelio.Lib Chamelio.Util

theorem ArpTable.set_set (t : ArpTable) (b : Nat) (e e' : ArpTableEntry) :
    (t.set b e).set b e' = t.set b e' := by
  unfold ArpTable.set
  congr 1
  funext j
  dsimp only
  split <;> rfl

/-- `tomgr_insert` would succeed. -/
def timerFree (m : Tomgr (Option Nat)) : Bool :=
  m.size < tomgrSize && m.findFreeEntry.isSome

theorem tomgrInsert_of_free {m : Tomgr (Option Nat)} (h : timerFree m = true) (type : ToType)
    (timeout : UInt64) (data : Option Nat) :
    ∃ m' e, m.tomgrInsert type timeout data = (m', some e) := by
  unfold timerFree at h
  rw [Bool.and_eq_true, decide_eq_true_eq] at h
  obtain ⟨e, he⟩ := Option.isSome_iff_exists.mp h.2
  unfold Tomgr.tomgrInsert
  rw [if_neg (by omega), he]
  exact ⟨_, _, rfl⟩

theorem timerFree_of_insert_none {m m' : Tomgr (Option Nat)} {type : ToType} {timeout : UInt64}
    {data : Option Nat} (h : m.tomgrInsert type timeout data = (m', none)) : timerFree m = false := by
  cases hf : timerFree m with
  | false => rfl
  | true =>
    obtain ⟨m'', e, he⟩ := tomgrInsert_of_free hf type timeout data
    rw [h] at he
    cases he

/-- The bucket `b` of `ip` once a request for it is sent. -/
def pendTable (t : ArpTable) (b : Nat) (ip : UInt32) : ArpTable :=
  t.set b { t.buckets b with ip, pending := true }

/-- The same with its timer. -/
def armTable (t : ArpTable) (b : Nat) (ip : UInt32) (te : Nat) : ArpTable :=
  t.set b { t.buckets b with ip, pending := true, te := some te }

/-- The bucket `b` of `ip` once `mac` is known. -/
def solveTable (t : ArpTable) (b : Nat) (ip : UInt32) (mac : EthAddr) (te : Option Nat) :
    ArpTable :=
  t.set b { ip, pending := false, mac, te }

/-- The timers once the one an entry names is cancelled. -/
def cancelTe (m : Tomgr (Option Nat)) : Option Nat → Tomgr (Option Nat)
  | none => m
  | some te => (m.tomgrCancel te).1

namespace ControlArp

variable {cfg : ArpConfig} {ctx ctx' : ControlArp}

@[simp] theorem request_table (ip : UInt32) :
    (ctx.request cfg ip).1.arpTable = ctx.arpTable := rfl
@[simp] theorem request_buf (ip : UInt32) : (ctx.request cfg ip).1.arpBuf = ctx.arpBuf := rfl
@[simp] theorem request_tomgr (ip : UInt32) : (ctx.request cfg ip).1.tomgr = ctx.tomgr := rfl
@[simp] theorem reply_table (mac : EthAddr) (ip : UInt32) :
    (ctx.reply cfg mac ip).arpTable = ctx.arpTable := rfl
@[simp] theorem reply_buf (mac : EthAddr) (ip : UInt32) :
    (ctx.reply cfg mac ip).arpBuf = ctx.arpBuf := rfl
@[simp] theorem reply_tomgr (mac : EthAddr) (ip : UInt32) :
    (ctx.reply cfg mac ip).tomgr = ctx.tomgr := rfl

theorem publish_table (ip : UInt32) (mac : EthAddr) :
    (ctx.publish cfg ip mac).1.arpTable = ctx.arpTable := by
  unfold publish updateArpFast
  dsimp only
  split <;> rfl

theorem publish_tomgr (ip : UInt32) (mac : EthAddr) :
    (ctx.publish cfg ip mac).1.tomgr = ctx.tomgr := by
  unfold publish updateArpFast
  dsimp only
  split <;> rfl

/-- A request goes out when both queues of core 0 have room. -/
theorem request_of_room (ip : UInt32) (htx : ctx.txq.hasRoom = true)
    (hcf : (ctx.ctlFastQs 0).hasRoom = true) : (ctx.request cfg ip).2 = true := by
  unfold request arpRequest arpSend
  rw [Fifo.push_of_room htx]
  dsimp only
  rw [Fifo.push_of_room hcf]

/-- Outcomes of `control_arp_lookup`. -/
theorem controlArpLookup_cases {ip : UInt32} {after : UInt64}
    (h : ctx.controlArpLookup cfg ip after = some ctx') :
    ((∃ b, arpLookup ctx.arpTable ip = some b) ∧ ctx' = ctx) ∨
    (arpLookup ctx.arpTable ip = none ∧
      ((arpBucket ctx.arpTable ip = none ∧ ctx' = (ctx.request cfg ip).1) ∨
        ∃ b, arpBucket ctx.arpTable ip = some b ∧
          (((ctx.request cfg ip).2 = true → timerFree ctx.tomgr = false) ∧
            ctx' = { (ctx.request cfg ip).1 with arpTable := pendTable ctx.arpTable b ip } ∨
          ∃ tomgr te, ctx.tomgr.tomgrInsert .arp after (some b) = (tomgr, some te) ∧
            ctx' = { (ctx.request cfg ip).1 with
              arpTable := armTable ctx.arpTable b ip te
              tomgr := tomgr }))) := by
  unfold controlArpLookup at h
  cases hl : arpLookup ctx.arpTable ip with
  | some b =>
    rw [hl] at h
    exact .inl ⟨⟨b, rfl⟩, (Option.some.inj h).symm⟩
  | none =>
    rw [hl] at h
    refine .inr ⟨rfl, ?_⟩
    unfold arpInsertPending at h
    cases hb : arpBucket ctx.arpTable ip with
    | none =>
      rw [hb] at h
      refine .inl ⟨rfl, ?_⟩
      dsimp only at h
      split at h
      · exact (Option.some.inj h).symm
      · split at h
        · exact (Option.some.inj h).symm
        · cases h
    | some b =>
      rw [hb] at h
      refine .inr ⟨b, rfl, ?_⟩
      dsimp only at h
      split at h
      · next hreq =>
        refine .inl ⟨fun hr => absurd (hreq.symm.trans hr) Bool.false_ne_true, ?_⟩
        exact (Option.some.inj h).symm
      · split at h
        · next hins =>
          exact .inl ⟨fun _ => timerFree_of_insert_none hins, (Option.some.inj h).symm⟩
        · next tomgr te hins =>
          refine .inr ⟨tomgr, te, hins, ?_⟩
          rw [← Option.some.inj h]
          unfold setTe armTable
          dsimp only [request]
          rw [ArpTable.set_set, ArpTable.set_same]

/-- Outcomes of one iteration of `poll_timeouts`. -/
theorem pollTimeout_cases {clk : Clock} (h : ctx.pollTimeout cfg clk = some ctx') :
    ctx' = ctx ∨
    ∃ te b, ctx.tomgr.tomgrPeek = some te ∧ (ctx.tomgr.entries te).timeout < clk.now ∧
      (ctx.tomgr.entries te).data = some b ∧
      (((ctx.arpTable.buckets b).pending = false ∧
          ctx' = { ctx with tomgr := ctx.tomgr.tomgrPop.1 }) ∨
        ((ctx.arpTable.buckets b).pending = true ∧
          (((ctx.request cfg (ctx.arpTable.buckets b).ip).2 = true →
              timerFree ctx.tomgr = false) ∧
            ctx' = { (ctx.request cfg (ctx.arpTable.buckets b).ip).1 with
              tomgr := ctx.tomgr.tomgrPop.1 } ∨
          ∃ tomgr te', ctx.tomgr.tomgrInsert .arp clk.after (some b) = (tomgr, some te') ∧
            ctx' = { (ctx.request cfg (ctx.arpTable.buckets b).ip).1 with
              arpTable := ctx.arpTable.set b { ctx.arpTable.buckets b with te := some te' }
              tomgr := tomgr.tomgrPop.1 }))) := by
  unfold pollTimeout at h
  cases hpk : ctx.tomgr.tomgrPeek with
  | none =>
    rw [hpk] at h
    exact .inl (Option.some.inj h).symm
  | some te =>
    rw [hpk] at h
    dsimp only at h
    split at h
    · next hto =>
      unfold controlArpTimeout at h
      cases hd : (ctx.tomgr.entries te).data with
      | none => rw [hd] at h; cases h
      | some b =>
        rw [hd] at h
        refine .inr ⟨te, b, rfl, hto, hd, ?_⟩
        dsimp only at h
        split at h
        · cases h
        next c hc =>
        split at hc
        · next hpend =>
          cases hc
          exact .inl ⟨hpend, (Option.some.inj h).symm⟩
        · next hpend =>
          rw [Bool.not_eq_false] at hpend
          refine .inr ⟨hpend, ?_⟩
          split at hc
          · next hreq =>
            cases hc
            refine .inl ⟨fun hr => absurd (hreq.symm.trans hr) Bool.false_ne_true, ?_⟩
            exact (Option.some.inj h).symm
          · split at hc
            · next hins =>
              cases hc
              exact .inl ⟨fun _ => timerFree_of_insert_none hins, (Option.some.inj h).symm⟩
            · next tomgr te' hins =>
              cases hc
              exact .inr ⟨tomgr, te', hins, (Option.some.inj h).symm⟩
    · exact .inl (Option.some.inj h).symm

/-- Outcomes of `control_arp_rep`. -/
theorem controlArpRep_cases {spa tpa : UInt32} {sha tha : EthAddr}
    (h : ctx.controlArpRep cfg spa sha tpa tha = some ctx') :
    ctx' = ctx ∨
    ∃ b, arpReplyTargetsLocal cfg tpa tha = true ∧ arpLookup ctx.arpTable spa = some b ∧
      (ctx.arpTable.buckets b).pending = true ∧
      ctx' = ({ ctx with
        arpTable := solveTable ctx.arpTable b spa sha none
        tomgr := cancelTe ctx.tomgr (ctx.arpTable.buckets b).te
        : ControlArp }.publish cfg spa sha).1 := by
  unfold controlArpRep at h
  split at h
  · exact .inl (Option.some.inj h).symm
  next hlocal =>
  split at h
  · exact .inl (Option.some.inj h).symm
  next hp =>
  obtain ⟨b, hl, hpend⟩ := Decidable.not_not.mp hp
  refine .inr ⟨b, Bool.not_eq_false _ ▸ hlocal, hl, hpend, ?_⟩
  unfold arpInsert at h
  rw [arpBucket_of_lookup hl] at h
  dsimp only at h
  rw [← Option.some.inj h]
  rw [ArpTable.set_same]
  dsimp only
  cases hte : (ctx.arpTable.buckets b).te with
  | none => rfl
  | some te =>
    dsimp only
    unfold setTe solveTable
    dsimp only
    rw [ArpTable.set_set, ArpTable.set_same]
    rfl

/-- Outcomes of `control_arp_req`. -/
theorem controlArpReq_cases (cfg : ArpConfig) (ctx : ControlArp) (spa tpa : UInt32)
    (sha : EthAddr) :
    ctx.controlArpReq cfg spa tpa sha = ctx ∨
    ctx.controlArpReq cfg spa tpa sha = ctx.reply cfg sha spa ∨
    ∃ b, ¬ Resolved ctx.arpTable spa ∧ arpBucket ctx.arpTable spa = some b ∧ tpa = cfg.ip ∧
      ctx.controlArpReq cfg spa tpa sha =
        let r := ({ ctx with
          arpTable := solveTable ctx.arpTable b spa sha (ctx.arpTable.buckets b).te
          : ControlArp }.publish cfg spa sha)
        if r.2 = false then r.1 else r.1.reply cfg sha spa := by
  unfold controlArpReq
  by_cases htpa : tpa ≠ cfg.ip
  · exact .inl (if_pos htpa)
  rw [if_neg htpa]
  by_cases hres : Resolved ctx.arpTable spa
  · exact .inr (.inl (if_pos hres))
  rw [if_neg hres]
  unfold arpInsert
  cases hb : arpBucket ctx.arpTable spa with
  | none => exact .inl rfl
  | some b => exact .inr (.inr ⟨b, hres, rfl, Decidable.not_not.mp htpa, rfl⟩)

/-- `control_arp_mbuf` touches neither the table nor the timers. -/
theorem controlArpMbuf_table (ctx : ControlArp) (ip : UInt32) (p : MbufTx) (core : Nat) :
    (ctx.controlArpMbuf ip p core).arpTable = ctx.arpTable ∧
      (ctx.controlArpMbuf ip p core).tomgr = ctx.tomgr := by
  unfold controlArpMbuf
  split
  · split <;> exact ⟨rfl, rfl⟩
  · split <;> exact ⟨rfl, rfl⟩

/-- What `control_arp_req` leaves of the table: nothing changes, or an
address that was not resolved is. -/
theorem controlArpReq_table (cfg : ArpConfig) (ctx : ControlArp) (spa tpa : UInt32)
    (sha : EthAddr) :
    (ctx.controlArpReq cfg spa tpa sha).tomgr = ctx.tomgr ∧
    ((ctx.controlArpReq cfg spa tpa sha).arpTable = ctx.arpTable ∨
      ∃ b, ¬ Resolved ctx.arpTable spa ∧ arpBucket ctx.arpTable spa = some b ∧
        (ctx.controlArpReq cfg spa tpa sha).arpTable =
          solveTable ctx.arpTable b spa sha (ctx.arpTable.buckets b).te) := by
  rcases controlArpReq_cases cfg ctx spa tpa sha with h | h | ⟨b, hres, hb, -, h⟩
  · rw [h]
    exact ⟨rfl, .inl rfl⟩
  · rw [h]
    exact ⟨rfl, .inl rfl⟩
  · rw [h]
    dsimp only
    split
    · exact ⟨publish_tomgr spa sha, .inr ⟨b, hres, hb, publish_table spa sha⟩⟩
    · exact ⟨publish_tomgr spa sha, .inr ⟨b, hres, hb, publish_table spa sha⟩⟩

/-! ## What goes to the cores -/

/-- The queues after `f c` was enqueued for each core `c`. -/
def Adds (qs qs' : Nat → Fifo CfMsg) (f : Nat → List CfMsg) : Prop :=
  ∀ c, (qs' c).items = (qs c).items ++ f c

theorem Adds.refl (qs : Nat → Fifo CfMsg) : Adds qs qs fun _ => [] :=
  fun _ => (List.append_nil _).symm

theorem Adds.trans {qs qs₁ qs₂ : Nat → Fifo CfMsg} {f g : Nat → List CfMsg} (h : Adds qs qs₁ f)
    (h' : Adds qs₁ qs₂ g) : Adds qs qs₂ fun c => f c ++ g c := by
  intro c
  rw [h' c, h c, List.append_assoc]

theorem Adds.mem {qs qs' : Nat → Fifo CfMsg} {f : Nat → List CfMsg} (h : Adds qs qs' f) {c : Nat}
    {m : CfMsg} (hm : m ∈ (qs c).items) : m ∈ (qs' c).items := by
  rw [h c]
  exact List.mem_append_left _ hm

theorem Adds.push {qs : Nat → Fifo CfMsg} {i : Nat} {m : CfMsg} {q : Fifo CfMsg}
    (h : (qs i).push m = some q) : Adds qs (setQ qs i q) fun c => if c = i then [m] else [] := by
  intro c
  dsimp only
  by_cases hc : c = i
  · rw [hc, setQ_same, Fifo.push_items h, if_pos rfl]
  · rw [setQ_ne qs q hc, if_neg hc, List.append_nil]

/-- A packet on the transmit queue adds a signal at most. -/
theorem arpSend_adds (ctx : ControlArp) (pkt : ArpPkt) :
    ∃ f, Adds ctx.ctlFastQs (setQ ctx.ctlFastQs 0 (arpSend ctx.txq (ctx.ctlFastQs 0) pkt).2.1) f ∧
      ∀ c m, m ∈ f c → m = .arpTxPkt := by
  have hsame : Adds ctx.ctlFastQs (setQ ctx.ctlFastQs 0 (ctx.ctlFastQs 0)) fun _ => [] := by
    intro c
    by_cases hc : c = 0
    · rw [hc, setQ_same, List.append_nil]
    · rw [setQ_ne _ _ hc, List.append_nil]
  unfold arpSend
  cases ctx.txq.push pkt with
  | none => exact ⟨_, hsame, fun c m hm => absurd hm List.not_mem_nil⟩
  | some txq =>
    dsimp only
    cases hpush : (ctx.ctlFastQs 0).push .arpTxPkt with
    | none => exact ⟨_, hsame, fun c m hm => absurd hm List.not_mem_nil⟩
    | some q =>
      refine ⟨_, Adds.push hpush, fun c m hm => ?_⟩
      split at hm
      · exact List.mem_singleton.mp hm
      · exact absurd hm List.not_mem_nil

theorem request_adds (cfg : ArpConfig) (ctx : ControlArp) (ip : UInt32) :
    ∃ f, Adds ctx.ctlFastQs (ctx.request cfg ip).1.ctlFastQs f ∧
      ∀ c m, m ∈ f c → m = .arpTxPkt :=
  arpSend_adds ctx _

theorem reply_adds (cfg : ArpConfig) (ctx : ControlArp) (mac : EthAddr) (ip : UInt32) :
    ∃ f, Adds ctx.ctlFastQs (ctx.reply cfg mac ip).ctlFastQs f ∧
      ∀ c m, m ∈ f c → m = .arpTxPkt :=
  arpSend_adds ctx _

/-- The loop over the cores adds the update, to all of them when it gets to
the end. -/
theorem updateLoop_adds (ip : UInt32) (mac : EthAddr) (n i : Nat) (qs : Nat → Fifo CfMsg) :
    ∃ f, Adds qs (updateLoop ip mac n i qs).1 f ∧ (∀ c m, m ∈ f c → m = .arpUpdate ip mac) ∧
      ((updateLoop ip mac n i qs).2 = true →
        ∀ c, i ≤ c → c < i + n → .arpUpdate ip mac ∈ f c) := by
  induction n generalizing i qs with
  | zero =>
    refine ⟨_, Adds.refl qs, fun c m hm => absurd hm List.not_mem_nil, ?_⟩
    intro _ c hi hn
    omega
  | succ n ih =>
    rw [updateLoop]
    cases hpush : (qs i).push (.arpUpdate ip mac) with
    | none =>
      refine ⟨_, Adds.refl qs, fun c m hm => absurd hm List.not_mem_nil, fun h => ?_⟩
      cases h
    | some q =>
      obtain ⟨g, hadd, honly, hall⟩ := ih (i + 1) (setQ qs i q)
      refine ⟨_, (Adds.push hpush).trans hadd, ?_, ?_⟩
      · intro c m hm
        rcases List.mem_append.mp hm with hm | hm
        · split at hm
          · exact List.mem_singleton.mp hm
          · exact absurd hm List.not_mem_nil
        · exact honly c m hm
      · intro hok c hi hn
        by_cases hc : c = i
        · rw [hc, if_pos rfl]
          exact List.mem_append_left _ List.mem_cons_self
        · exact List.mem_append_right _ (hall hok c (by omega) (by omega))

/-- With room in every queue it gets to the end. -/
theorem updateLoop_room (ip : UInt32) (mac : EthAddr) (n i : Nat) (qs : Nat → Fifo CfMsg)
    (h : ∀ c, i ≤ c → c < i + n → (qs c).hasRoom = true) :
    (updateLoop ip mac n i qs).2 = true := by
  induction n generalizing i qs with
  | zero => rfl
  | succ n ih =>
    rw [updateLoop, Fifo.push_of_room (h i (Nat.le_refl i) (by omega))]
    refine ih (i + 1) _ fun c hi hn => ?_
    rw [setQ_ne _ _ (by omega)]
    exact h c (by omega) (by omega)

/-- Flushing hands back packets that waited for `ip`, to their cores. -/
theorem flushLoop_adds (ip : UInt32) (es : List ArpBufEntry) (qs : Nat → Fifo CfMsg) :
    ∃ f, Adds qs (flushLoop ip es qs).2.1 f ∧
      ∀ c m, m ∈ f c → ∃ e, e ∈ es ∧ e.ip = ip ∧ e.core = c ∧ m = .mbufTx e.pkt := by
  induction es generalizing qs with
  | nil => exact ⟨_, Adds.refl qs, fun c m hm => absurd hm List.not_mem_nil⟩
  | cons e es ih =>
    rw [flushLoop]
    split
    · next hip =>
      cases hpush : (qs e.core).push (.mbufTx e.pkt) with
      | none => exact ⟨_, Adds.refl qs, fun c m hm => absurd hm List.not_mem_nil⟩
      | some q =>
        obtain ⟨g, hadd, honly⟩ := ih (setQ qs e.core q)
        refine ⟨_, (Adds.push hpush).trans hadd, fun c m hm => ?_⟩
        rcases List.mem_append.mp hm with hm | hm
        · split at hm
          · next hc => exact ⟨e, List.mem_cons_self, hip, hc.symm, List.mem_singleton.mp hm⟩
          · exact absurd hm List.not_mem_nil
        · obtain ⟨e', he', h⟩ := honly c m hm
          exact ⟨e', List.mem_cons_of_mem e he', h⟩
    · obtain ⟨g, hadd, honly⟩ := ih qs
      refine ⟨g, hadd, fun c m hm => ?_⟩
      obtain ⟨e', he', h⟩ := honly c m hm
      exact ⟨e', List.mem_cons_of_mem e he', h⟩

/-! ## Packets that wait -/

/-- The packets of core `c` in the ARP buffer. -/
def heldBy (c : Nat) (es : List ArpBufEntry) : List MbufTx :=
  es.filterMap fun e => if e.ip ≠ arpIpEmpty ∧ e.core = c then some e.pkt else none

/-- The packets handed back by the messages of a queue. -/
def mbufsOf (msgs : List CfMsg) : List MbufTx :=
  msgs.filterMap fun m => match m with
    | .mbufTx p => some p
    | _ => none

theorem mbufsOf_append (l l' : List CfMsg) : mbufsOf (l ++ l') = mbufsOf l ++ mbufsOf l' :=
  List.filterMap_append

theorem mbufsOf_eq_nil {l : List CfMsg} (h : ∀ p, .mbufTx p ∉ l) : mbufsOf l = [] := by
  unfold mbufsOf
  rw [List.filterMap_eq_nil_iff]
  intro m hm
  cases m with
  | mbufTx p => exact absurd hm (h p)
  | arpUpdate ip mac => rfl
  | arpTxPkt => rfl
  | other => rfl

theorem heldBy_cons (c : Nat) (e : ArpBufEntry) (es : List ArpBufEntry) :
    heldBy c (e :: es) =
      (if e.ip ≠ arpIpEmpty ∧ e.core = c then [e.pkt] else []) ++ heldBy c es := by
  unfold heldBy
  by_cases h : e.ip ≠ arpIpEmpty ∧ e.core = c
  · rw [List.filterMap_cons, if_pos h, if_pos h]
    rfl
  · rw [List.filterMap_cons, if_neg h, if_neg h]
    rfl

/-- `arp_buf_insert` finds an entry when one is empty. -/
theorem bufPut_of_room (e : ArpBufEntry) {es : List ArpBufEntry}
    (h : es.any (fun x => x.ip == arpIpEmpty) = true) : ∃ es', bufPut e es = some es' := by
  induction es with
  | nil => cases h
  | cons x es ih =>
    rw [bufPut]
    by_cases hx : x.ip = arpIpEmpty
    · exact ⟨_, if_pos hx⟩
    · rw [if_neg hx]
      rw [List.any_cons, beq_eq_false_iff_ne.mpr hx, Bool.false_or] at h
      obtain ⟨es', hes⟩ := ih h
      rw [hes]
      exact ⟨_, rfl⟩

/-- The new entry is the one packet more. -/
theorem bufPut_held {e : ArpBufEntry} {es es' : List ArpBufEntry} (he : e.ip ≠ arpIpEmpty)
    (h : bufPut e es = some es') (c : Nat) :
    (heldBy c es').Perm (heldBy c es ++ if e.core = c then [e.pkt] else []) := by
  induction es generalizing es' with
  | nil => cases h
  | cons x es ih =>
    rw [bufPut] at h
    split at h
    · next hx =>
      cases h
      have hgone : ¬(x.ip ≠ arpIpEmpty ∧ x.core = c) := fun hc => hc.1 hx
      rw [heldBy_cons, heldBy_cons, if_neg hgone, List.nil_append]
      by_cases hc : e.core = c
      · rw [if_pos ⟨he, hc⟩, if_pos hc]
        exact List.perm_append_comm
      · rw [if_neg (fun h => hc h.2), if_neg hc, List.nil_append, List.append_nil]
    · cases hr : bufPut e es with
      | none => rw [hr] at h; cases h
      | some zs =>
        rw [hr] at h
        cases h
        rw [heldBy_cons, heldBy_cons, List.append_assoc]
        exact (ih hr).append_left _

theorem bufPut_mem {e x : ArpBufEntry} {es es' : List ArpBufEntry} (h : bufPut e es = some es')
    (hx : x ∈ es') : x = e ∨ x ∈ es := by
  induction es generalizing es' with
  | nil => cases h
  | cons y es ih =>
    rw [bufPut] at h
    split at h
    · cases h
      exact (List.mem_cons.mp hx).imp id (List.mem_cons_of_mem y)
    · cases hr : bufPut e es with
      | none => rw [hr] at h; cases h
      | some zs =>
        rw [hr] at h
        cases h
        rcases List.mem_cons.mp hx with rfl | hx
        · exact .inr List.mem_cons_self
        · exact (ih hr hx).imp id (List.mem_cons_of_mem y)

/-- What a flush takes out of the buffer it puts into the queues. -/
theorem flushLoop_held {ip : UInt32} (hne : ip ≠ arpIpEmpty) (es : List ArpBufEntry)
    (qs : Nat → Fifo CfMsg) {f : Nat → List CfMsg}
    (hadd : Adds qs (flushLoop ip es qs).2.1 f) (c : Nat) :
    (heldBy c es).Perm (heldBy c (flushLoop ip es qs).1 ++ mbufsOf (f c)) := by
  -- nothing moved, so nothing was added
  have hnil : ∀ {qs : Nat → Fifo CfMsg} {f : Nat → List CfMsg}, Adds qs qs f → f c = [] := by
    intro qs f h
    exact List.append_right_eq_self.mp (h c).symm
  induction es generalizing qs f with
  | nil =>
    rw [hnil hadd]
    exact List.Perm.refl _
  | cons e es ih =>
    rw [flushLoop] at hadd ⊢
    split
    · next hip =>
      rw [if_pos hip] at hadd
      cases hpush : (qs e.core).push (.mbufTx e.pkt) with
      | none =>
        rw [hpush] at hadd
        rw [hnil hadd]
        exact List.Perm.of_eq (List.append_nil _).symm
      | some q =>
        rw [hpush] at hadd
        obtain ⟨g, hg, -⟩ := flushLoop_adds ip es (setQ qs e.core q)
        have hfg : f c = (if c = e.core then [.mbufTx e.pkt] else []) ++ g c := by
          have h₁ := (Adds.push hpush).trans hg c
          have h₂ : _ = _ := hadd c
          rw [h₁] at h₂
          exact (List.append_cancel_left h₂).symm
        dsimp only
        have hgone : ¬(arpIpEmpty ≠ arpIpEmpty ∧ e.core = c) := fun h => h.1 rfl
        rw [heldBy_cons, heldBy_cons, hfg, mbufsOf_append, if_neg hgone, List.nil_append]
        have hrest := ih (setQ qs e.core q) hg
        by_cases hc : e.core = c
        · rw [if_pos ⟨hip ▸ hne, hc⟩, if_pos hc.symm]
          exact (hrest.cons e.pkt).trans List.perm_middle.symm
        · rw [if_neg (fun h => hc h.2), if_neg (fun h => hc h.symm), List.nil_append]
          exact hrest
    · next hip =>
      rw [if_neg hip] at hadd
      dsimp only
      rw [heldBy_cons, heldBy_cons, List.append_assoc]
      exact (ih qs hadd).append_left _

/-- A flush leaves empty entries and entries that were there. -/
theorem flushLoop_mem {ip : UInt32} {es : List ArpBufEntry} {qs : Nat → Fifo CfMsg}
    {x : ArpBufEntry} (h : x ∈ (flushLoop ip es qs).1) : x.ip = arpIpEmpty ∨ x ∈ es := by
  induction es generalizing qs with
  | nil => exact .inr h
  | cons e es ih =>
    rw [flushLoop] at h
    split at h
    · split at h
      · exact .inr h
      · rcases List.mem_cons.mp h with rfl | h
        · exact .inl rfl
        · exact (ih h).imp id (List.mem_cons_of_mem e)
    · rcases List.mem_cons.mp h with rfl | h
      · exact .inr List.mem_cons_self
      · exact (ih h).imp id (List.mem_cons_of_mem e)

end ControlArp

end Chamelio.Arp
