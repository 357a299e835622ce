import Chamelio.Arp.System

/-!
# Packets that wait for ARP

A packet handed to the control path in an `MBUF_PENDING` message waits in the
ARP buffer until its address is resolved, and goes back to its core in an
`MBUF_TX` message. Two things have to hold: it is in exactly one of these
places, and the core has been sent the `ARP_UPDATE` for its address before it
gets the packet back.

Both are stated over the messages ever enqueued for a core, which are the
ones it took followed by the ones in its queue (`enqueued`). The packets the
control path was handed by core `c` are, up to order, the ones of `c` in the
buffer and the ones in the `MBUF_TX` messages enqueued for `c`; and each
`MBUF_TX` in that sequence has an `ARP_UPDATE` for its address before it.

This holds as long as `control_arp_mbuf` finds room for the packet and
`update_arp_fast` reaches every core when an address is resolved (`WaitOk`).
A packet that finds the buffer or the queue full is only logged, and its mbuf
is gone; an update that stops half-way leaves an address resolved that some
core was not told about, and packets go back to that core all the same. A
flush that stops at a full queue loses nothing: the rest stays in the buffer.
-/

namespace Chamelio.Arp

open Chamelio.Lib Chamelio.Util ControlArp ArpSys

/-- The messages core `c` took. -/
def tookOf (c : Nat) : List ArpObs → List CfMsg
  | [] => []
  | .took c' msg :: log => if c' = c then msg :: tookOf c log else tookOf c log
  | .handled _ _ :: log => tookOf c log
  | .quiet :: log => tookOf c log

/-- The packets core `c` handed to the control path. -/
def handedOf (c : Nat) : List ArpObs → List MbufTx
  | [] => []
  | .handled c' (.mbufPending _ p) :: log => if c' = c then p :: handedOf c log else handedOf c log
  | .handled _ _ :: log => handedOf c log
  | .took _ _ :: log => handedOf c log
  | .quiet :: log => handedOf c log

theorem tookOf_append (c : Nat) (l l' : List ArpObs) :
    tookOf c (l ++ l') = tookOf c l ++ tookOf c l' := by
  induction l with
  | nil => rfl
  | cons o l ih =>
    cases o with
    | took c' msg =>
      rw [List.cons_append, tookOf, tookOf, ih]
      split <;> rfl
    | handled c' msg => exact ih
    | quiet => exact ih

theorem handedOf_append (c : Nat) (l l' : List ArpObs) :
    handedOf c (l ++ l') = handedOf c l ++ handedOf c l' := by
  induction l with
  | nil => rfl
  | cons o l ih =>
    cases o with
    | took c' msg => exact ih
    | handled c' msg =>
      cases msg with
      | mbufPending ip p =>
        rw [List.cons_append, handedOf, handedOf, ih]
        split <;> rfl
      | arpLookup ip => exact ih
      | arpRxReq spa tpa sha => exact ih
      | arpRxRep spa sha tpa tha => exact ih
    | quiet => exact ih

/-- The messages ever enqueued for core `c`. -/
def enqueued (log : List ArpObs) (s : ArpSys) (c : Nat) : List CfMsg :=
  tookOf c log ++ (s.cfQ c).items

/-- The core is told an address before it gets a packet for it. -/
def ToldFirst (env : ArpEnv) (msgs : List CfMsg) : Prop :=
  ∀ pre p post, msgs = pre ++ .mbufTx p :: post →
    ∃ ip mac, env.remoteIp p = some ip ∧ .arpUpdate ip mac ∈ pre

/-- The control path has a place for the packet. -/
def PlaceRoom (ctl : ControlArp) (c : Nat) (ip : UInt32) : Prop :=
  if Resolved ctl.arpTable ip then (ctl.ctlFastQs c).hasRoom = true
  else ctl.arpBuf.entries.any (fun e => e.ip == arpIpEmpty) = true

instance (ctl : ControlArp) (c : Nat) (ip : UInt32) : Decidable (PlaceRoom ctl c ip) := by
  unfold PlaceRoom
  infer_instance

/-- The control path does not fail on a message half-way. -/
def KeepRoom (env : ArpEnv) (ctl : ControlArp) (c : Nat) : FcMsg → Prop
  | .mbufPending ip _ => PlaceRoom ctl c ip
  | msg => Resolves env.cfg ctl msg → RoomAll env ctl

instance (env : ArpEnv) (ctl : ControlArp) (c : Nat) (msg : FcMsg) :
    Decidable (KeepRoom env ctl c msg) :=
  match msg with
  | .mbufPending ip _ => inferInstanceAs (Decidable (PlaceRoom ctl c ip))
  | .arpLookup ip =>
    inferInstanceAs (Decidable (Resolves env.cfg ctl (.arpLookup ip) → RoomAll env ctl))
  | .arpRxReq spa tpa sha =>
    inferInstanceAs (Decidable (Resolves env.cfg ctl (.arpRxReq spa tpa sha) → RoomAll env ctl))
  | .arpRxRep spa sha tpa tha =>
    inferInstanceAs
      (Decidable (Resolves env.cfg ctl (.arpRxRep spa sha tpa tha) → RoomAll env ctl))

/-- The steps on which nothing is lost. -/
def WaitOk (env : ArpEnv) (s : ArpSys) : ArpAct → Prop
  | .ctlMsg c _ => ∀ msg, msg ∈ (s.fcQs c).head? → KeepRoom env s.ctl c msg
  | _ => True

instance (env : ArpEnv) (s : ArpSys) (a : ArpAct) : Decidable (WaitOk env s a) :=
  match a with
  | .ctlMsg c _ =>
    inferInstanceAs (Decidable (∀ msg, msg ∈ (s.fcQs c).head? → KeepRoom env s.ctl c msg))
  | .tx _ _ | .rxArp _ _ | .coreMsg _ _ | .timeout _ | .other _ => .isTrue trivial

structure WaitInv (env : ArpEnv) (log : List ArpObs) (s : ArpSys) : Prop where
  places : ∀ c, (handedOf c log).Perm
    (heldBy c s.ctl.arpBuf.entries ++ mbufsOf (enqueued log s c))
  order : ∀ c, ToldFirst env (enqueued log s c)
  pending : ∀ c ip p, .mbufPending ip p ∈ (s.fcQs c).items →
    env.remoteIp p = some ip ∧ ip ≠ arpIpEmpty
  buf : ∀ e, e ∈ s.ctl.arpBuf.entries → e.ip ≠ arpIpEmpty →
    env.remoteIp e.pkt = some e.ip ∧ e.core < env.cfg.fpCoresMax
  ctlTable : TableInv s.ctl.arpTable
  tables : ∀ c, TableInv (s.tables c)
  told : ∀ ip, ip ≠ arpIpEmpty → Resolved s.ctl.arpTable ip → ∀ c, c < env.cfg.fpCoresMax →
    ∃ mac, .arpUpdate ip mac ∈ enqueued log s c
  updates : ∀ c ip mac, .arpUpdate ip mac ∈ (s.cfQ c).items → ip ≠ arpIpEmpty

/-! ## Order -/

/-- Messages behind others, each packet told before. -/
theorem ToldFirst.extend {env : ArpEnv} {l l' : List CfMsg} (h : ToldFirst env l)
    (h' : ∀ p, .mbufTx p ∈ l' → ∃ ip mac, env.remoteIp p = some ip ∧ .arpUpdate ip mac ∈ l) :
    ToldFirst env (l ++ l') := by
  intro pre p post heq
  rcases List.append_eq_append_iff.mp heq with ⟨mid, hpre, hl'⟩ | ⟨mid, hl, hrest⟩
  · -- the packet is one of the new messages
    obtain ⟨ip, mac, hip, hm⟩ := h' p (by rw [hl']; simp)
    exact ⟨ip, mac, hip, by rw [hpre]; exact List.mem_append_left _ hm⟩
  · cases mid with
    | nil =>
      rw [List.append_nil] at hl
      obtain ⟨ip, mac, hip, hm⟩ := h' p (by rw [List.nil_append] at hrest; rw [← hrest]; simp)
      exact ⟨ip, mac, hip, hl ▸ hm⟩
    | cons x mid =>
      cases hrest
      exact h pre p mid hl

section

variable {env : ArpEnv} {log : List ArpObs} {s : ArpSys}

/-! ## Steps of a core -/

theorem enqueued_quiet (log : List ArpObs) (s : ArpSys) (c : Nat) :
    enqueued (log ++ [.quiet]) s c = enqueued log s c := by
  unfold enqueued
  rw [tookOf_append]
  show tookOf c log ++ [] ++ _ = _
  rw [List.append_nil]

theorem WaitInv.quiet (h : WaitInv env log s) : WaitInv env (log ++ [.quiet]) s := by
  refine ⟨fun c => ?_, fun c => ?_, h.pending, h.buf, h.ctlTable, h.tables, fun ip hne hr c hc => ?_,
    h.updates⟩
  · rw [enqueued_quiet, handedOf_append]
    show (handedOf c log ++ []).Perm _
    rw [List.append_nil]
    exact h.places c
  · rw [enqueued_quiet]
    exact h.order c
  · rw [enqueued_quiet]
    exact h.told ip hne hr c hc

/-- A core changes its table and enqueues messages. -/
theorem WaitInv.core (h : WaitInv env log s) {c : Nat} {t : ArpTable} {fcq : Fifo FcMsg}
    (htab : TableInv t)
    (hfc : ∀ ip p, .mbufPending ip p ∈ fcq.items →
      .mbufPending ip p ∈ (s.fcQs c).items ∨ (env.remoteIp p = some ip ∧ ip ≠ arpIpEmpty)) :
    WaitInv env log ((s.setTable c t).setFcQ c fcq) := by
  refine ⟨h.places, h.order, ?_, h.buf, h.ctlTable, ?_, h.told, h.updates⟩
  · intro c' ip p hm
    have hq : ((s.setTable c t).setFcQ c fcq).fcQs c' =
        if c' = c then fcq else s.fcQs c' := rfl
    rw [hq] at hm
    split at hm
    · exact (hfc ip p hm).elim (h.pending c ip p) id
    · exact h.pending c' ip p hm
  · intro c'
    show TableInv (if c' = c then t else s.tables c')
    split
    · exact htab
    · exact h.tables c'

theorem pendMbuf_new {fcq : Fifo FcMsg} {ip : UInt32} {p : MbufTx} {m : FcMsg}
    (h : m ∈ (pendMbuf fcq ip p).1.items) : m ∈ fcq.items ∨ m = .mbufPending ip p := by
  unfold pendMbuf at h
  split at h
  · exact .inl h
  · next q hpush => exact (Fifo.mem_push hpush).mp h

theorem WaitInv.infraTx (h : WaitInv env log s) (c : Nat) (p : MbufTx) :
    WaitInv env log (s.infraTx env c p) := by
  unfold ArpSys.infraTx
  cases hip : env.remoteIp p with
  | none => exact h
  | some ip =>
    dsimp only
    unfold processTxArp
    cases hl : arpLookup (s.tables c) ip with
    | some b =>
      dsimp only
      split
      · next hpend =>
        have hne := (h.tables c).pending_ne ⟨b, hl, hpend⟩
        refine h.core (h.tables c) fun ip' p' hm => ?_
        rcases pendMbuf_new hm with hm | heq
        · exact .inl hm
        · cases heq
          exact .inr ⟨hip, hne⟩
      · exact h.core (h.tables c) fun _ _ hm => .inl hm
    | none =>
      dsimp only
      unfold arpInsertPending
      cases hb : arpBucket (s.tables c) ip with
      | none => exact h.core (h.tables c) fun _ _ hm => .inl hm
      | some b =>
        dsimp only
        have hne := unknown_ne hl hb
        have htab := (h.tables c).set hb
          (show ({ (s.tables c).buckets b with ip, pending := true } : ArpTableEntry).ip = ip
            from rfl) hne
        cases hpush : (s.fcQs c).push (.arpLookup ip) with
        | none => exact h.core htab fun _ _ hm => .inl hm
        | some q =>
          refine h.core htab fun ip' p' hm => ?_
          rcases pendMbuf_new hm with hm | heq
          · rcases (Fifo.mem_push hpush).mp hm with hm | heq
            · exact .inl hm
            · cases heq
          · cases heq
            exact .inr ⟨hip, hne⟩

/-- What core `c` takes moves from its queue to its history. -/
theorem enqueued_took {c : Nat} {msg : CfMsg} (hhead : (s.cfQ c).head? = some msg) (c' : Nat) :
    enqueued (log ++ [.took c msg]) (s.setCfQ c (s.cfQ c).pop) c' = enqueued log s c' := by
  unfold enqueued
  have hq : (s.setCfQ c (s.cfQ c).pop).cfQ c' =
      if c' = c then (s.cfQ c).pop else s.cfQ c' := rfl
  rw [tookOf_append, hq]
  by_cases hc : c' = c
  · rw [hc, if_pos rfl, Fifo.head_cons hhead]
    show tookOf c log ++ (if c = c then [msg] else []) ++ _ = _
    rw [if_pos rfl, List.append_assoc]
    rfl
  · rw [if_neg hc]
    show tookOf c' log ++ (if c = c' then [msg] else []) ++ _ = _
    rw [if_neg (fun h => hc h.symm), List.append_nil]

theorem WaitInv.popCf (h : WaitInv env log s) {c : Nat} {msg : CfMsg}
    (hhead : (s.cfQ c).head? = some msg) :
    WaitInv env (log ++ [.took c msg]) (s.setCfQ c (s.cfQ c).pop) := by
  refine ⟨fun c' => ?_, fun c' => ?_, h.pending, h.buf, h.ctlTable, h.tables,
    fun ip hne hr c' hc' => ?_, fun c' ip mac hu => ?_⟩
  · rw [enqueued_took hhead, handedOf_append]
    show (handedOf c' log ++ []).Perm _
    rw [List.append_nil]
    exact h.places c'
  · rw [enqueued_took hhead]
    exact h.order c'
  · rw [enqueued_took hhead]
    exact h.told ip hne hr c' hc'
  · have hq : (s.setCfQ c (s.cfQ c).pop).cfQ c' =
        if c' = c then (s.cfQ c).pop else s.cfQ c' := rfl
    rw [hq] at hu
    split at hu
    · exact h.updates c ip mac (Fifo.pop_mem hu)
    · exact h.updates c' ip mac hu

theorem WaitInv.coreMsg (h : WaitInv env log s) {c : Nat} (txFull : Bool) {msg : CfMsg}
    (hhead : (s.cfQ c).head? = some msg) :
    WaitInv env (log ++ [.took c msg])
      ((s.setCfQ c (s.cfQ c).pop).coreHandle env c txFull msg) := by
  have hpop := h.popCf hhead
  cases msg with
  | arpUpdate ip mac =>
    have hne := h.updates c ip mac (Fifo.head_mem hhead)
    have htab : TableInv (arpInsert (s.tables c) ip mac).1 := by
      unfold arpInsert
      split
      · exact h.tables c
      · next b hb => exact (h.tables c).set hb rfl hne
    refine ⟨hpop.places, hpop.order, hpop.pending, hpop.buf, hpop.ctlTable, ?_, hpop.told,
      hpop.updates⟩
    intro c'
    show TableInv (if c' = c then (arpInsert (s.tables c) ip mac).1 else s.tables c')
    split
    · exact htab
    · exact h.tables c'
  | mbufTx p =>
    unfold coreHandle
    dsimp only
    split
    · exact hpop
    · exact hpop.infraTx c p
  | arpTxPkt =>
    unfold coreHandle
    dsimp only
    split
    · exact ⟨hpop.places, hpop.order, hpop.pending, hpop.buf, hpop.ctlTable, hpop.tables,
        hpop.told, hpop.updates⟩
    · exact hpop
  | other => exact hpop

/-! ## Steps of the control path -/

/-- The control path sends `f` and moves packets between the buffer, the
queues and the message at hand. -/
theorem WaitInv.control (h : WaitInv env log s) {ctl : ControlArp} {os : List ArpObs}
    {f : Nat → List CfMsg} (hadd : Adds s.ctl.ctlFastQs ctl.ctlFastQs f)
    (htook : ∀ c, tookOf c os = [])
    (hperm : ∀ c, (heldBy c s.ctl.arpBuf.entries ++ handedOf c os).Perm
      (heldBy c ctl.arpBuf.entries ++ mbufsOf (f c)))
    (hord : ∀ c, ToldFirst env (enqueued log s c ++ f c))
    (hbuf : ∀ e, e ∈ ctl.arpBuf.entries → e.ip ≠ arpIpEmpty →
      env.remoteIp e.pkt = some e.ip ∧ e.core < env.cfg.fpCoresMax)
    (htab : TableInv ctl.arpTable)
    (htold : ∀ ip, ip ≠ arpIpEmpty → Resolved ctl.arpTable ip → Resolved s.ctl.arpTable ip ∨
      ∀ c, c < env.cfg.fpCoresMax → ∃ mac, .arpUpdate ip mac ∈ f c)
    (hupd : ∀ c ip mac, .arpUpdate ip mac ∈ f c → ip ≠ arpIpEmpty) :
    WaitInv env (log ++ os) { s with ctl } := by
  have henq : ∀ c, enqueued (log ++ os) { s with ctl } c = enqueued log s c ++ f c := by
    intro c
    unfold enqueued
    have hq : (({ s with ctl } : ArpSys).cfQ c).items = (s.cfQ c).items ++ f c := hadd c
    rw [tookOf_append, htook, List.append_nil, hq, List.append_assoc]
  refine ⟨fun c => ?_, fun c => ?_, h.pending, hbuf, htab, h.tables, fun ip hne hr c hc => ?_,
    fun c ip mac hu => ?_⟩
  · rw [henq, handedOf_append, mbufsOf_append]
    have h₁ := (h.places c).append_right (handedOf c os)
    have h₂ := (hperm c).append_right (mbufsOf (enqueued log s c))
    -- move what was enqueued before out of the way of the new messages
    refine h₁.trans ?_
    rw [List.append_assoc]
    refine (List.perm_append_comm.append_left _).trans ?_
    rw [← List.append_assoc]
    refine h₂.trans ?_
    rw [List.append_assoc]
    exact List.perm_append_comm.append_left _
  · rw [henq]
    exact hord c
  · rw [henq]
    rcases htold ip hne hr with hr' | hall
    · obtain ⟨mac, hm⟩ := h.told ip hne hr' c hc
      exact ⟨mac, List.mem_append_left _ hm⟩
    · obtain ⟨mac, hm⟩ := hall c hc
      exact ⟨mac, List.mem_append_right _ hm⟩
  · have hq : (({ s with ctl } : ArpSys).cfQ c).items = (s.cfQ c).items ++ f c := hadd c
    rw [hq] at hu
    exact (List.mem_append.mp hu).elim (h.updates c ip mac) (hupd c ip mac)

/-- Signals and other messages change none of it. -/
theorem WaitInv.signal (h : WaitInv env log s) {ctl : ControlArp} {os : List ArpObs}
    {f : Nat → List CfMsg} (hadd : Adds s.ctl.ctlFastQs ctl.ctlFastQs f)
    (htook : ∀ c, tookOf c os = []) (hhand : ∀ c, handedOf c os = [])
    (hf : ∀ c m, m ∈ f c → m = .arpTxPkt ∨ m = .other)
    (hbuf : ctl.arpBuf = s.ctl.arpBuf) (htab : TableInv ctl.arpTable)
    (htold : ∀ ip, ip ≠ arpIpEmpty → Resolved ctl.arpTable ip → Resolved s.ctl.arpTable ip) :
    WaitInv env (log ++ os) { s with ctl } := by
  have hno : ∀ c p, .mbufTx p ∉ f c := by
    intro c p hm
    rcases hf c _ hm with heq | heq <;> cases heq
  refine h.control hadd htook (fun c => ?_) (fun c => ?_) (by rw [hbuf]; exact h.buf) htab
    (fun ip hne hr => .inl (htold ip hne hr)) (fun c ip mac hu => ?_)
  · rw [hhand, mbufsOf_eq_nil (hno c), hbuf]
  · exact (h.order c).extend fun p hm => absurd hm (hno c p)
  · rcases hf c _ hu with heq | heq <;> cases heq

/-- An address is resolved, the cores are told, and its packets go back. -/
theorem WaitInv.solve (h : WaitInv env log s) {ip : UInt32} {mac : EthAddr} {b : Nat}
    {te : Option Nat} {tomgr : Tomgr (Option Nat)} {os : List ArpObs}
    (htook : ∀ c, tookOf c os = []) (hhand : ∀ c, handedOf c os = [])
    (hb : arpBucket s.ctl.arpTable ip = some b) (hne : ip ≠ arpIpEmpty)
    (hroom : RoomAll env s.ctl) :
    WaitInv env (log ++ os) { s with
      ctl := ({ s.ctl with
        arpTable := solveTable s.ctl.arpTable b ip mac te
        tomgr := tomgr : ControlArp }.publish env.cfg ip mac).1 } := by
  have he : ({ ip, pending := false, mac, te } : ArpTableEntry).ip = ip := rfl
  have hok := updateLoop_room ip mac env.cfg.fpCoresMax 0 s.ctl.ctlFastQs
    fun c _ hn => hroom c (by omega)
  obtain ⟨f, hadd, honly, hall⟩ := updateLoop_adds ip mac env.cfg.fpCoresMax 0 s.ctl.ctlFastQs
  obtain ⟨g, hadd', hflush⟩ := flushLoop_adds ip s.ctl.arpBuf.entries
    (updateLoop ip mac env.cfg.fpCoresMax 0 s.ctl.ctlFastQs).1
  have hheld := flushLoop_held hne s.ctl.arpBuf.entries _ hadd'
  have hf : ∀ c p, .mbufTx p ∉ f c := by
    intro c p hm
    cases honly c _ hm
  unfold publish updateArpFast
  dsimp only
  rw [if_neg (by rw [hok]; exact Bool.noConfusion)]
  refine h.control (hadd.trans hadd') htook (fun c => ?_) (fun c => ?_) ?_
    (h.ctlTable.set hb he hne) ?_ ?_
  · rw [hhand, List.append_nil, mbufsOf_append, mbufsOf_eq_nil (hf c), List.nil_append]
    exact hheld c
  · rw [← List.append_assoc]
    refine ((h.order c).extend fun p hm => absurd hm (hf c p)).extend fun p hm => ?_
    -- a packet that is handed back waited for `ip`, which was sent just before
    obtain ⟨e, hmem, heip, hcore, heq⟩ := hflush c _ hm
    cases heq
    obtain ⟨hrem, hlt⟩ := h.buf e hmem (by rw [heip]; exact hne)
    rw [hcore] at hlt
    exact ⟨ip, mac, by rw [hrem, heip],
      List.mem_append_right _ (hall hok c (Nat.zero_le c) (by omega))⟩
  · intro e hmem hei
    rcases flushLoop_mem hmem with h0 | hmem
    · exact absurd h0 hei
    · exact h.buf e hmem hei
  · intro ip' hne' hr
    by_cases hip : ip' = ip
    · refine .inr fun c hc => ⟨mac, ?_⟩
      rw [hip]
      exact List.mem_append_left _ (hall hok c (Nat.zero_le c) (by omega))
    · exact .inl ((h.ctlTable.resolved_set_iff hb he hne' hip).mp hr)
  · intro c ip' mac' hu
    rcases List.mem_append.mp hu with hu | hu
    · cases honly c _ hu
      exact hne
    · obtain ⟨e, -, -, -, heq⟩ := hflush c _ hu
      cases heq

/-- `control_arp_mbuf`: the packet gets its place. -/
theorem WaitInv.mbuf (h : WaitInv env log s) {c : Nat} {ip : UInt32} {p : MbufTx}
    (hc : c < env.cfg.fpCoresMax) (hip : env.remoteIp p = some ip) (hne : ip ≠ arpIpEmpty)
    (hok : PlaceRoom s.ctl c ip) :
    WaitInv env (log ++ [.handled c (.mbufPending ip p)])
      { s with ctl := s.ctl.controlArpMbuf ip p c } := by
  have hhand : ∀ c', handedOf c' [.handled c (.mbufPending ip p)] = if c = c' then [p] else [] :=
    fun _ => rfl
  unfold PlaceRoom at hok
  unfold controlArpMbuf
  by_cases hres : Resolved s.ctl.arpTable ip
  · rw [if_pos hres] at hok ⊢
    have hpush := Fifo.push_of_room hok (.mbufTx p)
    rw [hpush]
    have hadd := Adds.push hpush
    refine h.control hadd (fun _ => rfl) (fun c' => ?_) (fun c' => ?_) h.buf h.ctlTable
      (fun _ _ hr => .inl hr) (fun c' ip' mac hu => ?_)
    · rw [hhand]
      by_cases hcc : c = c'
      · rw [if_pos hcc, if_pos hcc.symm]
        rfl
      · rw [if_neg hcc, if_neg (fun h => hcc h.symm)]
        rfl
    · refine (h.order c').extend fun p' hm => ?_
      split at hm
      · next hcc =>
        cases List.mem_singleton.mp hm
        obtain ⟨mac, hu⟩ := h.told ip hne hres c hc
        exact ⟨ip, mac, hip, by rw [hcc]; exact hu⟩
      · exact absurd hm List.not_mem_nil
    · split at hu
      · cases List.mem_singleton.mp hu
      · exact absurd hu List.not_mem_nil
  · rw [if_neg hres] at hok ⊢
    obtain ⟨es, hput⟩ := bufPut_of_room { ip, core := c, pkt := p } hok
    have hins : ∃ buf, arpBufInsert s.ctl.arpBuf ip c p = some buf ∧ buf.entries = es := by
      unfold arpBufInsert
      split
      · next hn => rw [hput] at hn; cases hn
      · next es' hs =>
        rw [hput] at hs
        cases hs
        exact ⟨_, rfl, rfl⟩
    obtain ⟨buf, hbuf, hes⟩ := hins
    rw [hbuf]
    refine h.control (Adds.refl _) (fun _ => rfl) (fun c' => ?_) (fun c' => ?_) ?_ h.ctlTable
      (fun _ _ hr => .inl hr) (fun _ _ _ hu => absurd hu List.not_mem_nil)
    · rw [hhand, mbufsOf_eq_nil (fun _ => List.not_mem_nil), List.append_nil]
      dsimp only
      rw [hes]
      exact (bufPut_held hne hput c').symm
    · rw [List.append_nil]
      exact h.order c'
    · intro e hmem hei
      dsimp only at hmem
      rw [hes] at hmem
      rcases bufPut_mem hput hmem with rfl | hmem
      · exact ⟨hip, hc⟩
      · exact h.buf e hmem hei

/-- `control_arp_lookup`, whatever fails in it. -/
theorem WaitInv.lookup (h : WaitInv env log s) {c : Nat} {ip : UInt32} {after : UInt64}
    {ctl : ControlArp} (hs : s.ctl.controlArpLookup env.cfg ip after = some ctl) :
    WaitInv env (log ++ [.handled c (.arpLookup ip)]) { s with ctl } := by
  obtain ⟨f, hadd, hsig⟩ := request_adds env.cfg s.ctl ip
  have hsig' : ∀ c m, m ∈ f c → m = .arpTxPkt ∨ m = .other := fun c m hm => .inl (hsig c m hm)
  -- marking `ip` pending resolves nothing
  have hpend : ∀ {b : Nat} {e : ArpTableEntry}, arpLookup s.ctl.arpTable ip = none →
      arpBucket s.ctl.arpTable ip = some b → e.ip = ip → e.pending = true →
      TableInv (s.ctl.arpTable.set b e) ∧ ∀ ip', ip' ≠ arpIpEmpty →
        Resolved (s.ctl.arpTable.set b e) ip' → Resolved s.ctl.arpTable ip' := by
    intro b e hl hb he hp
    refine ⟨h.ctlTable.set hb he (unknown_ne hl hb), fun ip' hne hr => ?_⟩
    have hip : ip' ≠ ip := by
      rintro rfl
      obtain ⟨b', hb', hp'⟩ := hr
      rw [arpLookup_set hb he] at hb'
      cases hb'
      rw [ArpTable.set_same, hp] at hp'
      cases hp'
    exact (h.ctlTable.resolved_set_iff hb he hne hip).mp hr
  rcases controlArpLookup_cases hs with
    ⟨-, rfl⟩ | ⟨hl, ⟨-, rfl⟩ | ⟨b, hb, ⟨-, rfl⟩ | ⟨tomgr, te, -, rfl⟩⟩⟩
  · exact h.signal (Adds.refl _) (fun _ => rfl) (fun _ => rfl)
      (fun _ _ hm => absurd hm List.not_mem_nil) rfl h.ctlTable (fun _ _ hr => hr)
  · exact h.signal hadd (fun _ => rfl) (fun _ => rfl) hsig' rfl h.ctlTable (fun _ _ hr => hr)
  · obtain ⟨htab, hres⟩ := @hpend b { s.ctl.arpTable.buckets b with ip, pending := true }
      hl hb rfl rfl
    exact h.signal hadd (fun _ => rfl) (fun _ => rfl) hsig' rfl htab hres
  · obtain ⟨htab, hres⟩ := @hpend b
      { s.ctl.arpTable.buckets b with ip, pending := true, te := some te } hl hb rfl rfl
    exact h.signal hadd (fun _ => rfl) (fun _ => rfl) hsig' rfl htab hres

theorem WaitInv.handle (h : WaitInv env log s) {c : Nat} {msg : FcMsg} {after : UInt64}
    {ctl : ControlArp} (hc : c < env.cfg.fpCoresMax) (hhead : (s.fcQs c).head? = some msg)
    (hok : KeepRoom env s.ctl c msg) (hs : s.ctl.handle env.cfg c msg after = some ctl) :
    WaitInv env (log ++ [.handled c msg]) { s with ctl } := by
  cases msg with
  | arpLookup ip => exact h.lookup hs
  | mbufPending ip p =>
    cases hs
    obtain ⟨hip, hne⟩ := h.pending c ip p (Fifo.head_mem hhead)
    exact h.mbuf hc hip hne hok
  | arpRxReq spa tpa sha =>
    cases hs
    have hsame : WaitInv env (log ++ [.handled c (.arpRxReq spa tpa sha)]) s :=
      h.signal (Adds.refl _) (fun _ => rfl) (fun _ => rfl)
        (fun _ _ hm => absurd hm List.not_mem_nil) rfl h.ctlTable (fun _ _ hr => hr)
    have hreply : ∀ {log : List ArpObs} {s : ArpSys}, WaitInv env log s →
        WaitInv env log { s with ctl := s.ctl.reply env.cfg sha spa } := by
      intro log s h
      obtain ⟨f, hadd, hsig⟩ := reply_adds env.cfg s.ctl sha spa
      have := @WaitInv.signal env log s h (s.ctl.reply env.cfg sha spa) [] f hadd (fun _ => rfl)
        (fun _ => rfl) (fun c m hm => .inl (hsig c m hm)) rfl h.ctlTable (fun _ _ hr => hr)
      rw [List.append_nil] at this
      exact this
    rcases controlArpReq_cases env.cfg s.ctl spa tpa sha with heq | heq | ⟨b, hres, hb, htpa, heq⟩
    · rw [heq]
      exact hsame
    · rw [heq]
      exact hreply hsame
    · rw [heq]
      have hne := h.ctlTable.unresolved_ne hres hb
      have hroom := hok ⟨htpa, hres, by rw [hb]; exact Option.some_ne_none b⟩
      have hsolve := @WaitInv.solve env log s h spa sha b (s.ctl.arpTable.buckets b).te s.ctl.tomgr
        [.handled c (.arpRxReq spa tpa sha)] (fun _ => rfl) (fun _ => rfl) hb hne hroom
      dsimp only
      split
      · exact hsolve
      · exact hreply hsolve
  | arpRxRep spa sha tpa tha =>
    rcases controlArpRep_cases hs with rfl | ⟨b, hlocal, hl, hp, rfl⟩
    · exact h.signal (Adds.refl _) (fun _ => rfl) (fun _ => rfl)
        (fun _ _ hm => absurd hm List.not_mem_nil) rfl h.ctlTable (fun _ _ hr => hr)
    · have hpend : Pending s.ctl.arpTable spa := ⟨b, hl, hp⟩
      exact h.solve (fun _ => rfl) (fun _ => rfl) (arpBucket_of_lookup hl)
        (h.ctlTable.pending_ne hpend) (hok ⟨hlocal, hpend⟩)

theorem WaitInv.popFc (h : WaitInv env log s) (c : Nat) :
    WaitInv env log (s.setFcQ c (s.fcQs c).pop) := by
  refine ⟨h.places, h.order, fun c' ip p hm => ?_, h.buf, h.ctlTable, h.tables, h.told, h.updates⟩
  have hq : (s.setFcQ c (s.fcQs c).pop).fcQs c' =
      if c' = c then (s.fcQs c).pop else s.fcQs c' := rfl
  rw [hq] at hm
  split at hm
  · exact h.pending c ip p (Fifo.pop_mem hm)
  · exact h.pending c' ip p hm

/-- One iteration of `poll_timeouts`, whatever fails in it. -/
theorem WaitInv.timeout (h : WaitInv env log s) {clk : Clock} {ctl : ControlArp}
    (hs : s.ctl.pollTimeout env.cfg clk = some ctl) :
    WaitInv env (log ++ [.quiet]) { s with ctl } := by
  rcases pollTimeout_cases hs with rfl | ⟨te, b, -, -, -, hcase⟩
  · exact h.quiet
  obtain ⟨f, hadd, hsig⟩ := request_adds env.cfg s.ctl (s.ctl.arpTable.buckets b).ip
  have hsig' : ∀ c m, m ∈ f c → m = .arpTxPkt ∨ m = .other := fun c m hm => .inl (hsig c m hm)
  rcases hcase with ⟨-, rfl⟩ | ⟨-, ⟨-, rfl⟩ | ⟨tomgr, te', -, rfl⟩⟩
  · exact h.signal (Adds.refl _) (fun _ => rfl) (fun _ => rfl)
      (fun _ _ hm => absurd hm List.not_mem_nil) rfl h.ctlTable (fun _ _ hr => hr)
  · exact h.signal hadd (fun _ => rfl) (fun _ => rfl) hsig' rfl h.ctlTable (fun _ _ hr => hr)
  · have hsame : SameStatus s.ctl.arpTable
        (s.ctl.arpTable.set b { s.ctl.arpTable.buckets b with te := some te' }) :=
      sameStatus_te s.ctl.arpTable b (some te')
    exact h.signal hadd (fun _ => rfl) (fun _ => rfl) hsig' rfl (hsame.inv h.ctlTable)
      (fun _ _ hr => hsame.resolved hr)

/-! ## Runs -/

theorem processRxArp_new {fcq : Fifo FcMsg} {pkt : ArpPkt} {ip : UInt32} {p : MbufTx}
    (h : .mbufPending ip p ∈ (processRxArp fcq pkt).items) : .mbufPending ip p ∈ fcq.items := by
  have hpush : ∀ x, x ≠ .mbufPending ip p →
      .mbufPending ip p ∈ ((fcq.push x).getD fcq).items → .mbufPending ip p ∈ fcq.items := by
    intro x hx hm
    cases hp : fcq.push x with
    | none => rw [hp] at hm; exact hm
    | some q =>
      rw [hp] at hm
      exact ((Fifo.mem_push hp).mp hm).resolve_right fun heq => hx heq.symm
  unfold processRxArp at h
  split at h
  · exact hpush (.arpRxReq pkt.spa pkt.tpa pkt.sha) nofun h
  · split at h
    · exact hpush (.arpRxRep pkt.spa pkt.sha pkt.tpa pkt.tha) nofun h
    · exact h

theorem WaitInv.step (h : WaitInv env log s) {a : ArpAct} (hok : WaitOk env s a) :
    WaitInv env (log ++ [(s.step env a).2]) (s.step env a).1 := by
  cases a with
  | tx c p =>
    unfold ArpSys.step
    dsimp only
    split
    · exact (h.infraTx c p).quiet
    · exact h.quiet
  | rxArp c pkt =>
    unfold ArpSys.step
    dsimp only
    split
    · refine ⟨h.quiet.places, h.quiet.order, fun c' ip p hm => ?_, h.buf, h.ctlTable, h.tables,
        h.quiet.told, h.updates⟩
      have hq : (s.setFcQ c (processRxArp (s.fcQs c) pkt)).fcQs c' =
          if c' = c then processRxArp (s.fcQs c) pkt else s.fcQs c' := rfl
      rw [hq] at hm
      split at hm
      · exact h.pending c ip p (processRxArp_new hm)
      · exact h.pending c' ip p hm
    · exact h.quiet
  | coreMsg c txFull =>
    unfold ArpSys.step
    dsimp only
    split
    · cases hhead : (s.cfQ c).head? with
      | none => exact h.quiet
      | some msg => exact h.coreMsg txFull hhead
    · exact h.quiet
  | ctlMsg c after =>
    unfold ArpSys.step
    dsimp only
    split
    · next hc =>
      cases hhead : (s.fcQs c).head? with
      | none => exact h.quiet
      | some msg =>
        dsimp only
        cases hs : s.ctl.handle env.cfg c msg after with
        | none => exact h.quiet
        | some ctl => exact (h.handle hc hhead (hok msg hhead) hs).popFc c
    · exact h.quiet
  | timeout clk =>
    unfold ArpSys.step
    dsimp only
    cases hs : s.ctl.pollTimeout env.cfg clk with
    | none => exact h.quiet
    | some ctl => exact h.timeout hs
  | other c =>
    unfold ArpSys.step
    dsimp only
    cases hpush : (s.cfQ c).push .other with
    | none => exact h.quiet
    | some q =>
      refine h.signal (Adds.push hpush) (fun _ => rfl) (fun _ => rfl) (fun c' m hm => ?_) rfl
        h.ctlTable (fun _ _ hr => hr)
      split at hm
      · exact .inr (List.mem_singleton.mp hm)
      · exact absurd hm List.not_mem_nil

theorem ArpSys.Init.waitInv {s₀ : ArpSys} (h : Init s₀) : WaitInv env [] s₀ := by
  obtain ⟨mem, htab⟩ := h.table
  have henq : ∀ c, enqueued [] s₀ c = [] := fun c => h.cfQs c
  have hempty : ∀ e, e ∈ arpBufInit.entries → e.ip = arpIpEmpty := by
    intro e he
    rw [List.eq_of_mem_replicate he]
  have hheld : ∀ c, heldBy c s₀.ctl.arpBuf.entries = [] := by
    intro c
    rw [h.buf]
    unfold heldBy
    rw [List.filterMap_eq_nil_iff]
    intro e he
    exact if_neg fun hc => hc.1 (hempty e he)
  refine ⟨?_, ?_, ?_, ?_, ?_, ?_, ?_, ?_⟩
  · intro c
    rw [henq, hheld]
    exact List.Perm.refl _
  · intro c pre p post heq
    rw [henq] at heq
    exact absurd heq (List.append_ne_nil_of_right_ne_nil pre (List.cons_ne_nil _ post)).symm
  · intro c ip p hm
    rw [h.fcQs c] at hm
    exact absurd hm List.not_mem_nil
  · intro e he hne
    rw [h.buf] at he
    exact absurd (hempty e he) hne
  · rw [htab]
    exact arpTableInit_inv mem
  · intro c
    obtain ⟨mem', ht⟩ := h.tables c
    rw [ht]
    exact arpTableInit_inv mem'
  · rintro ip hne ⟨b, hb, -⟩
    rw [htab, arpLookup_init mem hne] at hb
    cases hb
  · intro c ip mac hu
    rw [h.cfQs c] at hu
    exact absurd hu List.not_mem_nil

end

/-- **Packets that wait for ARP are kept and come back after the answer**, in
every run in which the control path finds room for them: the packets handed
over by a core are the ones of that core in the buffer and in the `MBUF_TX`
messages enqueued for it, each once, and each `MBUF_TX` is enqueued behind an
`ARP_UPDATE` for its address. -/
theorem arp_packets_kept {env : ArpEnv} {s₀ s : ArpSys} {log : List ArpObs}
    (h₀ : ArpSys.Init s₀) (hr : Run (WaitOk env) (ArpSys.step env) s₀ log s) (c : Nat) :
    (handedOf c log).Perm (heldBy c s.ctl.arpBuf.entries ++ mbufsOf (enqueued log s c)) ∧
      ToldFirst env (enqueued log s c) := by
  have hinv := Run.inv (I := WaitInv env) h₀.waitInv (fun _ _ _ h hok => h.step hok) hr
  exact ⟨hinv.places c, hinv.order c⟩

/-! ## Packets that are lost -/

/-- One core; a packet goes to the address its mbuf is numbered with. -/
def loneCore : ArpEnv where
  cfg := { fpCoresMax := 1, ip := 9, ethAddr := ⟨2, 0, 0, 0, 0, 1⟩ }
  remoteIp p := some (UInt32.ofNat p.mb)

/-- A packet to host 5. -/
def pktTo5 : MbufTx := ⟨0, 60, 5⟩

/-- A packet waits for host 5 and goes back once it answered. -/
def keptRun : List ArpAct :=
  [.tx 0 pktTo5, .ctlMsg 0 10, .ctlMsg 0 0, .rxArp 0 replyOf5, .ctlMsg 0 0]

/-- It is in the core's queue, behind the update. -/
theorem arp_packets_kept_one :
    enqueued (execAll (ArpSys.step loneCore) keptRun (freshArp 4)).1
        (execAll (ArpSys.step loneCore) keptRun (freshArp 4)).2 0 =
      [.arpTxPkt, .arpUpdate 5 ⟨2, 0, 0, 0, 0, 5⟩, .mbufTx pktTo5] ∧
    (handedOf 0 (execAll (ArpSys.step loneCore) keptRun (freshArp 4)).1).Perm
      (heldBy 0 (execAll (ArpSys.step loneCore) keptRun (freshArp 4)).2.ctl.arpBuf.entries ++
        [pktTo5]) := by
  have hrun := @Run.execOk _ _ _ (WaitOk loneCore) _ (ArpSys.step loneCore) (freshArp 4) keptRun _ _
    Run.nil (by decide)
  exact ⟨by decide, (arp_packets_kept (freshArp_init 4) hrun 0).1⟩

/-- The core sends a second packet to host 5 before it takes the update, and
its control queue of three entries is full when the packet arrives. -/
def lostRun : List ArpAct :=
  [.tx 0 pktTo5, .ctlMsg 0 10, .ctlMsg 0 0, .rxArp 0 replyOf5, .ctlMsg 0 0,
    .tx 0 ⟨1, 60, 5⟩, .ctlMsg 0 0]

/-- The second packet was handed over and is nowhere. -/
theorem arp_packets_lost :
    handedOf 0 (execAll (ArpSys.step loneCore) lostRun (freshArp 3)).1 = [pktTo5, ⟨1, 60, 5⟩] ∧
      heldBy 0 (execAll (ArpSys.step loneCore) lostRun (freshArp 3)).2.ctl.arpBuf.entries = [] ∧
      mbufsOf (enqueued (execAll (ArpSys.step loneCore) lostRun (freshArp 3)).1
        (execAll (ArpSys.step loneCore) lostRun (freshArp 3)).2 0) = [pktTo5] := by
  decide

end Chamelio.Arp
