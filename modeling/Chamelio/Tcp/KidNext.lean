import Chamelio.Tcp.KidSteps

/-!
# Segments and requests as moves of children

The second half of `KidSteps.lean`: the handshake of a child, from its SYN
to the ready ring, and the requests of the applications. `Marked.next` puts
every event together.
-/

namespace Chamelio.Tcp

open Chamelio.Lib Chamelio.Util Chamelio.Pkt Chamelio.Fast

/-! ## Handshakes -/

section handshakes

variable {ctx : TcpSlowCtx} {sid : Nat} {hit : Prop}

/-- A socket that opens passively is a child. -/
theorem Marked.child_of_synRecv (h : Marked ctx) (hlt : sid < ctx.nSocks)
    (hst : (ctx.sock sid).state = .synRecv) : (ctx.kid sid).mark ≠ idInvalid :=
  fun hm => ((h.kid sid hlt).other hm).1 hst

theorem synRecv_not_ready (hst : (ctx.sock sid).state = .synRecv) :
    isReady ctx sid = true → hit := by
  intro hr
  have hr := (of_decide_eq_true hr).2
  have hst' : (ctx.kid sid).state = .synRecv := hst
  rw [hst'] at hr
  cases hr

theorem synRecv_live (hst : (ctx.sock sid).state = .synRecv) :
    (ctx.kid sid).mark = idInvalid ∨ (ctx.kid sid).state ≠ .closed :=
  .inr (fun hc => SockState.noConfusion (hst.symm.trans hc))

/-- The child `sock_passive_established` puts into the ready ring. -/
def passiveSock (ctx : TcpSlowCtx) (sid : Nat) (rx : TcpRxCtl) : TcpSlowCtx :=
  let ctx := tcpTimeoutCancel ctx sid
  let sock := ctx.sock sid
  ctx.setSock sid
    { sock with
      txRemoteAvail := rx.wnd.toUInt32
      txPending := sock.txPending - 1
      txSeq := sock.txSeq + 1
      state := .acceptPending }

theorem passiveSock_kid (h : Base ctx) (hlt : sid < ctx.nSocks) (rx : TcpRxCtl) (j : Nat) :
    (passiveSock ctx sid rx).kid j =
      if j = sid then { ctx.kid sid with state := .acceptPending, kind := .none }
      else ctx.kid j := by
  unfold passiveSock
  dsimp only
  unfold TcpSlowCtx.kid
  by_cases hj : j = sid
  · rw [if_pos hj, hj, TcpSlowCtx.sock_setSock]
    show Kid.mk (SockMeta.listenerId (if sid = (ctx.sock sid).id.toNat then _ else _)) _
      (SockMeta.retxKind (if sid = (ctx.sock sid).id.toNat then _ else _)) = _
    rw [if_pos (h.toNat_id hlt).symm]
    show Kid.mk (ctx.tcpSockMeta sid).listenerId SockState.acceptPending RetxKind.none = _
    rw [h.meta_eq hlt]
  · rw [if_neg hj, TcpSlowCtx.sock_setSock_ne _ _ hj]
    show Kid.mk (SockMeta.listenerId (if j = (ctx.sock sid).id.toNat then _ else _)) _
      (SockMeta.retxKind (if j = (ctx.sock sid).id.toNat then _ else _)) = _
    rw [if_neg (by rw [h.toNat_id hlt]; exact hj)]
    rfl

theorem tcpListenerReadyPush_eq (ctx : TcpSlowCtx) (listenerId sockId : UInt32) :
    tcpListenerReadyPush ctx listenerId sockId =
      if (ctx.listeners listenerId.toNat).hasCell then
        (ctx.setListener listenerId.toNat
          (ringPush (ctx.listeners listenerId.toNat) sockId), true)
      else (ctx, false) := by
  unfold tcpListenerReadyPush
  dsimp only
  by_cases hcell : (ctx.listeners listenerId.toNat).hasCell
  · rw [if_pos hcell, if_neg]
    · rfl
    · rintro (hc | hc)
      · rw [hcell.1] at hc
        cases hc
      · exact absurd hcell.2 (UInt32.not_lt.mpr hc)
  · rw [if_neg hcell, if_pos]
    cases hact : (ctx.listeners listenerId.toNat).active with
    | false => exact .inl rfl
    | true => exact .inr (UInt32.not_lt.mp (fun hc => hcell ⟨hact, hc⟩))

/-- The push succeeds exactly when there is a cell; else the child is closed
again. -/
theorem sockPassiveEstablished_eq (h : Base ctx) (hlt : sid < ctx.nSocks) (rx : TcpRxCtl) :
    sockPassiveEstablished ctx sid rx =
      if (ctx.listeners (ctx.kid sid).mark.toNat).hasCell then
        ((passiveSock ctx sid rx).setListener (ctx.kid sid).mark.toNat
          (ringPush (ctx.listeners (ctx.kid sid).mark.toNat) (UInt32.ofNat sid)), true)
      else (tcpSockCloseFinal (passiveSock ctx sid rx) sid, false) := by
  have hmark : ((passiveSock ctx sid rx).tcpSockMeta sid).listenerId = (ctx.kid sid).mark := by
    have hk := passiveSock_kid h hlt rx sid
    rw [if_pos rfl] at hk
    have hid : ((passiveSock ctx sid rx).sock sid).id.toNat = sid := by
      unfold passiveSock
      dsimp only
      rw [TcpSlowCtx.sock_setSock]
      exact h.toNat_id hlt
    unfold TcpSlowCtx.tcpSockMeta
    rw [hid]
    exact congrArg Kid.mark hk
  have hid : ((passiveSock ctx sid rx).sock sid).id = UInt32.ofNat sid := by
    unfold passiveSock
    dsimp only
    rw [TcpSlowCtx.sock_setSock]
    exact h.id sid hlt
  have hl : (passiveSock ctx sid rx).listeners = ctx.listeners := rfl
  have hpush : sockPassiveEstablished ctx sid rx =
      if !(tcpListenerReadyPush (passiveSock ctx sid rx)
        ((passiveSock ctx sid rx).tcpSockMeta sid).listenerId
        ((passiveSock ctx sid rx).sock sid).id).2 then
        (tcpSockCloseFinal (tcpListenerReadyPush (passiveSock ctx sid rx)
          ((passiveSock ctx sid rx).tcpSockMeta sid).listenerId
          ((passiveSock ctx sid rx).sock sid).id).1 sid, false)
      else ((tcpListenerReadyPush (passiveSock ctx sid rx)
        ((passiveSock ctx sid rx).tcpSockMeta sid).listenerId
        ((passiveSock ctx sid rx).sock sid).id).1, true) := rfl
  rw [hpush]
  rw [hmark, hid, tcpListenerReadyPush_eq, hl]
  by_cases hcell : (ctx.listeners (ctx.kid sid).mark.toNat).hasCell
  · rw [if_pos hcell, if_pos hcell]
    rfl
  · rw [if_neg hcell, if_neg hcell]
    rfl

/-- **A handshake is complete**: the child is ready, or it is closed for want
of a cell. -/
theorem handled_sockPassiveEstablished (h : Marked ctx) (hlt : sid < ctx.nSocks)
    (hst : (ctx.sock sid).state = .synRecv) (rx : TcpRxCtl) :
    Handled ctx (sockPassiveEstablished ctx sid rx).1
      (if (sockPassiveEstablished ctx sid rx).2 then
        [.readied (ctx.kid sid).mark.toNat sid] else []) hit := by
  have hbase : Base (sockPassiveEstablished ctx sid rx).1 :=
    h.base.steps (steps_sockPassiveEstablished hlt hst rx)
  have hkid := passiveSock_kid h.base hlt rx
  rw [sockPassiveEstablished_eq h.base hlt] at hbase ⊢
  split
  · next hcell =>
    rw [if_pos hcell] at hbase
    refine @handled_visible hit _ _ (.readied _ sid) ?_ rfl
    exact ⟨hlt, ⟨h.child_of_synRecv hlt hst, rfl⟩, hst, hcell, fun _ => hbase, rfl,
      fun j _ => hkid j, rfl⟩
  · next hcell =>
    have hbase' : Base (passiveSock ctx sid rx) := by
      refine h.base.steps ((same_tcpTimeoutCancel ctx sid).steps.tail
        (@Prim.move _ _ _ .acceptPending hlt (by rw [tcpTimeoutCancel_sock, hst]; rfl) rfl
          (rekeyed_setSock (tcpTimeoutCancel ctx sid) sid _)))
    refine handled_gone (gone_close hbase' hlt rfl ?_ ?_ rfl (synRecv_live hst))
      (tcpSockCloseFinal_closed _ _) (synRecv_not_ready hst)
    · intro i _ hi
      rw [hkid, if_neg hi]
    · rw [hkid, if_pos rfl]

/-- The ACK that completes the handshake of a child. -/
def completes (sock : TcpSock) (rx : TcpRxCtl) : Prop :=
  sock.state = .synRecv ∧ rx.flags &&& tcpRst = 0 ∧ ¬(rx.flags &&& tcpSyn ≠ 0 ∧
    rx.flags &&& tcpAck = 0) ∧ ¬(rx.flags &&& tcpAck = 0 ∨ !sockAckValid sock rx.ack)

instance (sock : TcpSock) (rx : TcpRxCtl) : Decidable (completes sock rx) :=
  inferInstanceAs (Decidable (_ ∧ _ ∧ _ ∧ _))

/-- The child a segment makes ready. -/
def segmentReadies (ctx : TcpSlowCtx) (sid : Nat) (rx : TcpRxCtl) : List KidEv :=
  if completes (ctx.sock sid) rx ∧ (sockPassiveEstablished ctx sid rx).2 = true then
    [.readied (ctx.kid sid).mark.toNat sid]
  else []

theorem handled_tcpRxSynRecv (h : Marked ctx) (hlt : sid < ctx.nSocks)
    (hst : (ctx.sock sid).state = .synRecv) (rx : TcpRxCtl) :
    Handled ctx (tcpRxSynRecv ctx sid rx) (segmentReadies ctx sid rx) hit := by
  unfold tcpRxSynRecv segmentReadies
  split
  · next hrst =>
    rw [if_neg (fun hc => hrst hc.1.2.1)]
    exact handled_close (KidsSame.refl ctx) h.base hlt (synRecv_live hst) (synRecv_not_ready hst)
  · next hrst =>
    split
    · next hsyn =>
      rw [if_neg (fun hc => hc.1.2.2.1 hsyn)]
      exact (kids_ctlPktEnqueue ctx _).handled
    · next hsyn =>
      split
      · next hack =>
        rw [if_neg (fun hc => hc.1.2.2.2 hack)]
        exact handled_refl
      · next hack =>
        have hcomp : completes (ctx.sock sid) rx :=
          ⟨hst, Classical.not_not.mp hrst, hsyn, hack⟩
        have hp : Handled ctx _ _ hit := handled_sockPassiveEstablished h hlt hst rx
        generalize sockPassiveEstablished ctx sid rx = r at hp ⊢
        obtain ⟨ctx₁, ok⟩ := r
        cases ok with
        | false =>
          rw [if_neg (fun hc => Bool.false_ne_true hc.2)]
          exact hp
        | true =>
          rw [if_pos ⟨hcomp, rfl⟩]
          exact hp.calm (kids_appSubmit _ _ _ _)
            (fun j => key_state ((same_appSubmit _ _ _ _).key j))

/-- Nothing is ready before its handshake began. -/
theorem segmentReadies_nil {rx : TcpRxCtl} (hst : (ctx.sock sid).state ≠ .synRecv) :
    segmentReadies ctx sid rx = [] := by
  unfold segmentReadies
  rw [if_neg (fun hc => hst hc.1.1)]

theorem handled_tcpRxSynSent (h : Marked ctx) (hlt : sid < ctx.nSocks)
    (hst : (ctx.sock sid).state = .synSent) (rx : TcpRxCtl) :
    Handled ctx (tcpRxSynSent ctx sid rx) [] hit := by
  have hfree : (ctx.kid sid).mark = idInvalid := by
    apply h.free_of_state hlt
    · rw [hst]
      exact SockState.noConfusion
    · rw [hst]
      exact SockState.noConfusion
    · rw [hst]
      exact SockState.noConfusion
  unfold tcpRxSynSent
  split
  · exact (kids_tcpSockConnectFail h.base hlt hfree _).handled
  · split
    · exact handled_refl
    · split
      · exact handled_refl
      · have hc := kids_tcpTimeoutCancel ctx sid
        have hr := rekeyed_setSock (tcpTimeoutCancel ctx sid) sid
          (activeEstablished (tcpTimeoutCancel ctx sid) ((tcpTimeoutCancel ctx sid).sock sid) rx)
        have hk : KidsSame (tcpTimeoutCancel ctx sid) (sockActiveEstablished ctx sid rx) := by
          refine hr.kids (fun hb => hb.rekeyed hr rfl nofun ?_) (.inr ⟨?_, nofun, nofun⟩)
          · intro hge
            rw [hc.nSocks] at hge
            exact absurd hlt (Nat.not_lt_of_le hge)
          · rw [(hc.kid sid hlt).mark]
            exact hfree
        exact ((hc.trans hk).trans ((kids_tcpCtlTx _ _ _).trans (kids_appSubmit _ _ _ _))).handled

/-- A reset or a FIN. -/
def endsConn (rx : TcpRxCtl) : Prop := rx.flags &&& tcpRst ≠ 0 ∨ rx.flags &&& tcpFin ≠ 0

instance (rx : TcpRxCtl) : Decidable (endsConn rx) := inferInstanceAs (Decidable (_ ∨ _))

theorem handled_tcpRxEstablished (h : Marked ctx) (hlt : sid < ctx.nSocks)
    (hlive : (ctx.sock sid).state ≠ .closed) (rx : TcpRxCtl) :
    Handled ctx (tcpRxEstablished ctx sid rx) []
      ((ctx.sock sid).state = .acceptPending ∧ endsConn rx) := by
  have hready : isReady ctx sid = true → (ctx.sock sid).state = .acceptPending :=
    fun hr => (of_decide_eq_true hr).2
  unfold tcpRxEstablished
  split
  · next hrst =>
    exact handled_close (KidsSame.refl ctx) h.base hlt (.inr hlive)
      (fun hr => ⟨hready hr, .inl hrst⟩)
  · split
    · next hfin =>
      have hs : KidsSame ctx (ctx.setSock sid { ctx.sock sid with rxSeq := rx.seq + 1 }) :=
        kids_setSock ctx rfl
      exact handled_close (hs.trans (kids_tcpCtlTx _ _ _)) h.base hlt (.inr hlive)
        (fun hr => ⟨hready hr, .inr hfin⟩)
    · exact handled_refl

theorem handled_tcpRxFinWait1 (h : Marked ctx) (hlt : sid < ctx.nSocks)
    (hst : (ctx.sock sid).state = .finWait1) (rx : TcpRxCtl) :
    Handled ctx (tcpRxFinWait1 ctx sid rx) [] hit := by
  have hfree : (ctx.kid sid).mark = idInvalid := by
    apply h.free_of_state hlt
    · rw [hst]
      exact SockState.noConfusion
    · rw [hst]
      exact SockState.noConfusion
    · rw [hst]
      exact SockState.noConfusion
  have hend : ∀ {b : TcpSlowCtx}, KidsSame ctx b →
      Handled ctx (tcpSockCloseFinal (tcpTimeoutCancel b sid) sid) [] hit :=
    fun hs => handled_close (hs.trans (kids_tcpTimeoutCancel _ sid)) h.base hlt
      (.inl hfree) (free_not_ready hfree)
  unfold tcpRxFinWait1
  by_cases hf : rx.flags &&& tcpFin ≠ 0
  · have hseq : KidsSame ctx (ctx.setSock sid { ctx.sock sid with rxSeq := rx.seq + 1 }) :=
      kids_setSock ctx rfl
    have hs := hseq.trans (kids_tcpCtlTx _ sid tcpAck)
    rw [if_pos hf]
    dsimp only
    rw [if_pos hf]
    split
    · exact hend hs
    · exact hend hs
  · rw [if_neg hf]
    dsimp only
    rw [if_neg hf]
    split
    · exact hend (KidsSame.refl ctx)
    · exact handled_refl

theorem handled_sockCtlRx (h : Marked ctx) (hlt : sid < ctx.nSocks) (rx : TcpRxCtl) :
    Handled ctx (sockCtlRx ctx sid rx) (segmentReadies ctx sid rx)
      ((ctx.sock sid).state = .acceptPending ∧ endsConn rx) := by
  unfold sockCtlRx
  split
  · next hst =>
    rw [segmentReadies_nil (by rw [hst]; exact SockState.noConfusion)]
    exact handled_tcpRxSynSent h hlt hst rx
  · next hst => exact handled_tcpRxSynRecv h hlt hst rx
  · next hst =>
    rw [segmentReadies_nil (by rw [hst]; exact SockState.noConfusion)]
    exact handled_tcpRxEstablished h hlt (by rw [hst]; exact SockState.noConfusion) rx
  · next hst =>
    rw [segmentReadies_nil (by rw [hst]; exact SockState.noConfusion)]
    exact handled_tcpRxEstablished h hlt (by rw [hst]; exact SockState.noConfusion) rx
  · next hst =>
    rw [segmentReadies_nil (by rw [hst]; exact SockState.noConfusion)]
    exact handled_tcpRxFinWait1 h hlt hst rx
  · next hsyn _ _ _ =>
    rw [segmentReadies_nil (by assumption)]
    exact handled_refl

end handshakes

/-! ## New connections -/

section arriving

variable {a c : TcpSlowCtx} {listenSid : Nat} {rx : TcpRxCtl} {hit : Prop}

theorem kids_unallocated {b : TcpSlowCtx} (h : Unallocated a b) : KidsSame a b := by
  refine ⟨fun hb => hb.unalloc h, h.nSocks, h.listeners, ?_⟩
  intro i hi
  have hne : i ≠ a.nSocks := Nat.ne_of_lt hi
  have hk : b.kid i = a.kid i := by
    unfold TcpSlowCtx.kid
    rw [h.sock i hne, h.sockMeta i hne]
  rw [hk]
  exact KidStay.refl _

/-- The sockets with the child's entry. -/
theorem listenEntry_kid (h : Base a) (ha : Allocated a c) (j : Nat) :
    (listenEntry c listenSid a.nSocks rx).kid j =
      if j = a.nSocks then
        { mark := (c.sock listenSid).id, state := .synRecv, kind := .none }
      else a.kid j := by
  have hkey := @listenEntry_key a c listenSid rx ha j
  have hid : (c.sock a.nSocks).id.toNat = a.nSocks := by
    rw [show (c.sock a.nSocks).id = UInt32.ofNat a.nSocks from congrArg SockKey.id ha.key]
    exact toNat_ofNat_sock ha.room
  have hmeta : (listenEntry c listenSid a.nSocks rx).sockMeta j =
      if j = a.nSocks then { c.sockMeta a.nSocks with listenerId := (c.sock listenSid).id }
      else c.sockMeta j := by
    unfold listenEntry TcpSlowCtx.setMeta TcpSlowCtx.tcpSockMeta
    dsimp only
    rw [TcpSlowCtx.sock_setSock,
      show (childSock c (c.sock a.nSocks) rx).id.toNat = a.nSocks from hid]
    split
    · rfl
    · rfl
  by_cases hj : j = a.nSocks
  · rw [if_pos hj] at hkey hmeta ⊢
    have hkind : (c.sockMeta a.nSocks).retxKind = .none := by
      rw [ha.kind]
      exact h.timer _ (.inl (Nat.le_refl _))
    unfold TcpSlowCtx.kid
    rw [hmeta, show (_ : TcpSock).state = .synRecv from congrArg SockKey.state hkey]
    dsimp only
    rw [hkind]
  · rw [if_neg hj] at hkey hmeta ⊢
    unfold TcpSlowCtx.kid
    rw [hmeta, key_state hkey, ha.sockMeta j hj, ha.sock j hj]

/-- The bucket was full: the child was closed at once. -/
theorem grown_full (h : Base a) (ha : Allocated a c) (hport : Listenable rx.localPort) :
    KidMove a ((listenEntry c listenSid a.nSocks rx).setSock a.nSocks
      { (listenEntry c listenSid a.nSocks rx).sock a.nSocks with state := .closed }) .grown := by
  have hsp := @spawned_full a c listenSid rx ha hport
  refine ⟨{ mark := (c.sock listenSid).id, state := .closed, kind := .none }, .inl rfl,
    fun hb => hb.spawn hsp, ha.room, hsp.nSocks, ?_, ?_⟩
  · intro j _
    have hk := @listenEntry_kid a c listenSid rx h ha j
    by_cases hj : j = a.nSocks
    · rw [if_pos hj] at hk ⊢
      unfold TcpSlowCtx.kid at hk ⊢
      rw [hj] at hk ⊢
      rw [TcpSlowCtx.sock_setSock]
      exact congrArg (fun x : Kid => { x with state := .closed }) hk
    · rw [if_neg hj] at hk ⊢
      unfold TcpSlowCtx.kid at hk ⊢
      rw [TcpSlowCtx.sock_setSock_ne _ _ hj]
      exact hk
  · exact ha.listeners

/-- **A child arrives.** -/
theorem arrived_slot {b : TcpSlowCtx} (h : Base a) (ha : Allocated a c)
    (hl : listenSid < a.nSocks) (hport : Listenable rx.localPort)
    (hnone : tcpFlowLookup a rx.localIp rx.localPort rx.remoteIp rx.remotePort = none)
    (hact : (a.listeners listenSid).active = true)
    (hroom : (a.listeners listenSid).backlogUsed < (a.listeners listenSid).backlogLen)
    (hb : tcpFlowInsert (listenEntry c listenSid a.nSocks rx) a.nSocks = some b) :
    KidMove a (b.setListener listenSid { b.listeners listenSid with
      backlogUsed := (b.listeners listenSid).backlogUsed + 1 }) (.arrived listenSid) := by
  have hsp := spawned_slot ha hport hnone hb
  obtain ⟨s, -, -, hbe⟩ := tcpFlowInsert_eq_some hb
  have hid : (c.sock listenSid).id = UInt32.ofNat listenSid := by
    rw [ha.sock listenSid (Nat.ne_of_lt hl), h.id listenSid hl]
  have hls : b.listeners = a.listeners := by
    rw [hbe]
    exact ha.listeners
  refine ⟨UInt32.ofNat listenSid, ofNat_ne_idInvalid (h.lt hl), toNat_ofNat_sock (h.lt hl), hact,
    hroom, fun hb' => (hb'.spawn hsp).same (core_setListener _ _ _), ha.room, hsp.nSocks, ?_, ?_⟩
  · intro j _
    have hk := @listenEntry_kid a c listenSid rx h ha j
    rw [hid] at hk
    rw [← hk, hbe]
    rfl
  · funext j
    show (if j = listenSid then _ else b.listeners j) = if j = listenSid then _ else a.listeners j
    rw [hls]

/-- From the arrival on: the child is answered, or closed again. -/
theorem handled_listenAnswer {b : TcpSlowCtx} {m : Listener} (h : Marked (b.setListener listenSid m))
    (hto : (c.sock listenSid).id.toNat = listenSid)
    (hm : m = { b.listeners listenSid with
      backlogUsed := (b.listeners listenSid).backlogUsed + 1 })
    (hlt : c.nSocks - 1 < b.nSocks) (hst : (b.sock (c.nSocks - 1)).state = .synRecv) :
    Handled (b.setListener listenSid m)
      (listenAnswer b (c.sock listenSid).id (c.nSocks - 1) rx) [] hit := by
  unfold listenAnswer
  dsimp only
  rw [hto, ← hm]
  generalize c.nSocks - 1 = sid at hlt hst ⊢
  have hst₁ : ((b.setListener listenSid m).sock sid).state = .synRecv := hst
  have hlt₁ : sid < (b.setListener listenSid m).nSocks := hlt
  generalize b.setListener listenSid m = d at h hst₁ hlt₁ ⊢
  have hs := same_tcpCtlTx d sid (synackFlags (d.sock sid))
  have hk := kids_tcpCtlTx d sid (synackFlags (d.sock sid))
  generalize tcpCtlTx d sid _ = r at hs hk ⊢
  obtain ⟨d₂, ok⟩ := r
  dsimp only at hs hk ⊢
  have hst₂ : (d₂.sock sid).state = .synRecv := (key_state (hs.key sid)).trans hst₁
  have hlt₂ : sid < d₂.nSocks := by rw [hk.nSocks]; exact hlt₁
  split
  · exact (handled_close hk h.base hlt₁ (synRecv_live hst₁) (synRecv_not_ready hst₁)).calm
      (kids_replyRst _ _ _ _) (fun j => key_state ((same_replyRst _ _ _ _).key j))
  · have harm := @kids_tcpTimeoutArm d₂ sid .synack (hk.base h.base) hlt₂
      (by rw [hst₂]; exact SockState.noConfusion) (.inr ⟨hst₂, rfl⟩)
    have hk₃ := hk.trans harm
    generalize tcpTimeoutArm d₂ sid .synack = r at hk₃ ⊢
    obtain ⟨d₃, ok₃⟩ := r
    dsimp only at hk₃ ⊢
    split
    · exact handled_close (hk₃.trans (kids_replyRst _ _ _ _)) h.base hlt₁ (synRecv_live hst₁)
        (synRecv_not_ready hst₁)
    · exact hk₃.handled

theorem handled_listenChild (h : Marked a) (ha : Allocated a c) (hl : listenSid < a.nSocks)
    (hport : Listenable rx.localPort)
    (hnone : tcpFlowLookup a rx.localIp rx.localPort rx.remoteIp rx.remotePort = none)
    (hact : (a.listeners listenSid).active = true)
    (hroom : (a.listeners listenSid).backlogUsed < (a.listeners listenSid).backlogLen) :
    Handled a (listenChild c listenSid a.nSocks rx) [] hit := by
  rw [listenChild_eq]
  cases hb : tcpFlowInsert (listenEntry c listenSid a.nSocks rx) a.nSocks with
  | none =>
    dsimp only
    exact (grown_full h.base ha hport).then (fun _ _ => KidEv.noConfusion)
      (kids_replyRst _ _ _ _).handled
  | some b =>
    dsimp only
    have hmove := arrived_slot h.base ha hl hport hnone hact hroom hb
    have hsp := spawned_slot ha hport hnone hb
    have hn : a.nSocks = c.nSocks - 1 := by rw [ha.nSocks]; rfl
    have hid : (c.sock listenSid).id.toNat = listenSid := by
      rw [ha.sock listenSid (Nat.ne_of_lt hl), h.base.toNat_id hl]
    have hst : (b.sock a.nSocks).state = .synRecv := by
      have hk := (hsp.key a.nSocks).trans (if_pos rfl)
      exact congrArg SockKey.state hk
    have hlt : a.nSocks < b.nSocks := by rw [hsp.nSocks]; exact Nat.lt_succ_self _
    rw [hn] at hst hlt ⊢
    exact hmove.then (fun _ _ => KidEv.noConfusion)
      (handled_listenAnswer (h.move hmove) hid rfl hlt hst)

theorem handled_tcpRxListenSyn (h : Marked a) (hl : listenSid < a.nSocks)
    (hport : Listenable rx.localPort) : Handled a (tcpRxListenSyn a listenSid rx) [] hit := by
  unfold tcpRxListenSyn
  dsimp only
  rw [h.base.toNat_id hl]
  split
  · exact (kids_replyRst a _ _ _).handled
  · next hgo =>
    split
    · exact handled_refl
    · next hnone =>
      rw [Bool.not_eq_true, Option.isSome_eq_false_iff, Option.isNone_iff_eq_none] at hnone
      have hact : (a.listeners listenSid).active = true := by
        cases hact : (a.listeners listenSid).active with
        | true => rfl
        | false => exact absurd (.inl (by rw [hact]; rfl)) hgo
      have hroom : (a.listeners listenSid).backlogUsed < (a.listeners listenSid).backlogLen :=
        UInt32.not_le.mp (fun hc => hgo (.inr hc))
      have hall := tcpSockAlloc_cases a 0 0 0 0
      generalize tcpSockAlloc a 0 0 0 0 = r at hall ⊢
      obtain ⟨c, sid⟩ := r
      rcases hall with ⟨hsid, hu⟩ | ⟨hsid, ha⟩
      · dsimp only at hsid hu
        rw [hsid]
        exact (kids_unallocated hu).handled
      · dsimp only at hsid ha
        rw [hsid]
        exact handled_listenChild h ha hl hport hnone hact hroom

end arriving

/-! ## Segments -/

section segments

variable {ctx : TcpSlowCtx}

/-- A lookup finds a listening socket. -/
theorem tcpListenerLookup_listen {localIp : UInt32} {port : UInt16} {k : UInt32}
    (h : (tcpListenerLookup ctx localIp port).2 = some k) :
    (ctx.sock k.toNat).state = .listen := by
  unfold tcpListenerLookup at h
  split at h
  · cases h
  · dsimp only at h
    split at h
    · cases h
    · split at h
      · cases h
      · next hfind =>
        have hacc := List.find?_some hfind
        cases h
        simp only [Bool.and_eq_true, beq_iff_eq] at hacc
        exact hacc.1.2

/-- A segment that resets or ends a child in the ready ring, or a close that
names one. -/
def hitsReady (ctx : TcpSlowCtx) : SlowAct → Bool
  | .segment p core =>
    let rx := ctlRxParse p (if core.toNat ≥ ctx.nFpCores then 0 else core)
    match tcpFlowLookup ctx rx.localIp rx.localPort rx.remoteIp rx.remotePort with
    | some sid => decide ((ctx.sock sid).state = .acceptPending ∧ endsConn rx)
    | none => false
  | .close sockId =>
    decide (sockId.toNat < ctx.nSocks ∧ (ctx.sock sockId.toNat).state = .acceptPending)
  | _ => false

/-- The child a segment makes ready. -/
def ctlRxReadies (ctx : TcpSlowCtx) (p : Nat → UInt8) (core : UInt16) : List KidEv :=
  let rx := ctlRxParse p (if core.toNat ≥ ctx.nFpCores then 0 else core)
  match tcpFlowLookup ctx rx.localIp rx.localPort rx.remoteIp rx.remotePort with
  | some sid => segmentReadies (slowSockTsRx ctx sid rx) sid rx
  | none => []

theorem handled_ctlRx (h : Marked ctx) (p : Nat → UInt8) (core : UInt16) :
    Handled ctx (ctlRx ctx p core) (ctlRxReadies ctx p core)
      (hitsReady ctx (.segment p core)) := by
  unfold ctlRx ctlRxReadies hitsReady
  dsimp only
  generalize ctlRxParse p _ = rx
  cases hf : tcpFlowLookup ctx rx.localIp rx.localPort rx.remoteIp rx.remotePort with
  | some sid =>
    dsimp only
    have hsame := same_slowSockTsRx ctx sid rx
    have hts := hsame.kids_of_meta (slowSockTsRx_sockMeta ctx sid rx)
    have hlt := (tcpFlowLookup_some h.base hf).1
    have hrx := handled_sockCtlRx (h.kids hts) (by rw [hts.nSocks]; exact hlt) rx
    rw [key_state (hsame.key sid)] at hrx
    exact hts.then (hrx.weaken decide_eq_true)
  | none =>
    dsimp only
    split
    · exact handled_refl
    · have hs := same_tcpListenerLookup ctx rx.localIp rx.localPort
      have hl := hs.kids_of_meta (tcpListenerLookup_sockMeta ctx rx.localIp rx.localPort)
      have hport := fun k => @tcpListenerLookup_port ctx rx.localIp rx.localPort k
      have hlisten := fun k => @tcpListenerLookup_listen ctx rx.localIp rx.localPort k
      generalize tcpListenerLookup ctx rx.localIp rx.localPort = r at hs hl hport hlisten ⊢
      obtain ⟨ctx₁, k⟩ := r
      cases k with
      | none => exact (hl.trans (kids_replyRst _ _ _ _)).handled
      | some k =>
        have hst := hlisten k rfl
        have hlt : k.toNat < ctx.nSocks := by
          apply h.base.lt_of_state
          · rw [hst]
            exact SockState.noConfusion
          · rw [hst]
            exact SockState.noConfusion
        exact hl.then (handled_tcpRxListenSyn (h.kids hl) (by rw [hl.nSocks]; exact hlt)
          (hport k rfl))

end segments

/-! ## Requests -/

section requests

variable {ctx : TcpSlowCtx} {sid : Nat} {hit : Prop}

theorem AutoBound.kids {a b : TcpSlowCtx} {port : UInt16} (h : AutoBound a b sid port) :
    KidsSame a b := by
  refine ⟨h.base, h.nSocks, h.listeners, ?_⟩
  intro i _
  refine KidStay.stopped (h.listenerId i) ?_ (.inl (h.kind i))
  have hkey := h.key i
  by_cases hi : i = sid
  · rw [if_pos hi] at hkey
    rw [hi] at hkey ⊢
    exact congrArg SockKey.state hkey
  · rw [if_neg hi] at hkey
    exact key_state hkey

theorem PortKept.kids {a b : TcpSlowCtx} (h : PortKept a b sid) : KidsSame a b := by
  rcases h with ⟨-, rfl⟩ | ⟨-, ha⟩
  · exact KidsSame.refl _
  · exact ha.kids

theorem kids_bindIp (ctx : TcpSlowCtx) (sid : Nat) : KidsSame ctx (bindIp ctx sid) := by
  have hr := rekeyed_bindIp ctx sid
  exact hr.kids (fun hb => hb.rekeyed hr rfl (fun hc => hc) (fun _ => rfl)) (.inl rfl)

theorem kids_tcpFlowInsert {d : TcpSlowCtx} (hlt : sid < ctx.nSocks)
    (hd : tcpFlowInsert ctx sid = some d) : KidsSame ctx d := by
  obtain ⟨s, -, -, hde⟩ := tcpFlowInsert_eq_some hd
  refine ⟨fun hb => hb.inserted hlt hd, by rw [hde]; rfl, by rw [hde]; rfl, ?_⟩
  intro i _
  have hk : d.kid i = ctx.kid i := by
    rw [hde]
    rfl
  rw [hk]
  exact KidStay.refl _

theorem kids_appBind (ctx : TcpSlowCtx) (appId ctxId : UInt8) (sid : Nat) (localIp : UInt32)
    (localPort : UInt16) (opaquePtr : UInt64) :
    KidsSame ctx (appBind ctx appId ctxId sid localIp localPort opaquePtr) := by
  unfold appBind
  split
  · exact KidsSame.refl ctx
  · split
    · rcases @bindPort_kept ctx sid with ⟨hok, hk⟩ | ⟨-, he⟩
      · generalize bindPort ctx sid = r at hok hk ⊢
        obtain ⟨c, ok⟩ := r
        dsimp only at hok hk
        rw [hok]
        dsimp only
        have hr := rekeyed_setSock (bindIp c sid) sid
          { (bindIp c sid).sock sid with localIp, localPort }
        have hset := hr.kids (fun hb => hb.rekeyed hr rfl (fun hc => hc) (fun _ => rfl)) (.inl rfl)
        exact hk.kids.trans ((kids_bindIp c sid).trans (hset.trans (kids_appSubmit _ _ _ _)))
      · rw [he]
        exact (kids_bindIp ctx sid).trans (kids_appSubmit _ _ _ _)
    · exact kids_appSubmit _ _ _ _

/-- From the new key of a connecting socket on. -/
theorem kids_sockConnectStart (h : Base ctx) (hlt : sid < ctx.nSocks)
    (hfree : (ctx.kid sid).mark = idInvalid) (remoteIp : UInt32) (remotePort : UInt16) :
    KidsSame ctx (sockConnectStart ctx sid remoteIp remotePort) := by
  unfold sockConnectStart
  dsimp only
  have hr := rekeyed_setSock ctx sid (connectSock ctx (ctx.sock sid) remoteIp remotePort)
  have hk : KidsSame ctx _ := hr.kids
    (fun hb => hb.rekeyed hr rfl nofun (fun hge => absurd hlt (Nat.not_lt_of_le hge)))
    (.inr ⟨hfree, nofun, nofun⟩)
  have hst : ((ctx.setSock sid (connectSock ctx (ctx.sock sid) remoteIp remotePort)).sock
      sid).state = .synSent := by
    rw [TcpSlowCtx.sock_setSock]
    rfl
  generalize ctx.setSock sid _ = c at hk hst ⊢
  have hlt' : sid < c.nSocks := by rw [hk.nSocks]; exact hlt
  have hfree' : (c.kid sid).mark = idInvalid := (hk.kid sid hlt).mark.trans hfree
  cases hd : tcpFlowInsert c sid with
  | none => exact hk.trans (kids_tcpSockConnectFail (hk.base h) hlt' hfree' _)
  | some d =>
    dsimp only
    have hkd := hk.trans (kids_tcpFlowInsert hlt' hd)
    have hstd : (d.sock sid).state = .synSent := by
      obtain ⟨s, -, -, hde⟩ := tcpFlowInsert_eq_some hd
      rw [hde]
      exact hst
    have hs := same_tcpCtlTx d sid (synFlags (d.sock sid))
    have hk₁ := hkd.trans (kids_tcpCtlTx d sid (synFlags (d.sock sid)))
    generalize tcpCtlTx d sid _ = r at hs hk₁ ⊢
    obtain ⟨d₁, ok⟩ := r
    dsimp only at hs hk₁ ⊢
    have hlt₁ : sid < d₁.nSocks := by rw [hk₁.nSocks]; exact hlt
    have hfree₁ : (d₁.kid sid).mark = idInvalid := (hk₁.kid sid hlt).mark.trans hfree
    split
    · exact hk₁.trans (kids_tcpSockConnectFail (hk₁.base h) hlt₁ hfree₁ _)
    · have harm := @kids_tcpTimeoutArm d₁ sid .syn (hk₁.base h) hlt₁
        (by rw [key_state (hs.key sid), hstd]; exact SockState.noConfusion) (.inl hfree₁)
      have hk₂ := hk₁.trans harm
      generalize tcpTimeoutArm d₁ sid .syn = r at hk₂ ⊢
      obtain ⟨d₂, ok₂⟩ := r
      dsimp only at hk₂ ⊢
      split
      · exact hk₂.trans (kids_tcpSockConnectFail (hk₂.base h) (by rw [hk₂.nSocks]; exact hlt)
          ((hk₂.kid sid hlt).mark.trans hfree) _)
      · exact hk₂

theorem kids_appConnect (h : Base ctx) (hfree : sid < ctx.nSocks → (ctx.kid sid).mark = idInvalid)
    (appId ctxId : UInt8) (remoteIp : UInt32) (remotePort : UInt16) (opaquePtr : UInt64) :
    KidsSame ctx (appConnect ctx appId ctxId sid remoteIp remotePort opaquePtr) := by
  unfold appConnect
  split
  · exact kids_appSubmit _ _ _ _
  · next hreq =>
    have hlt : sid < ctx.nSocks := by omega
    split
    · exact kids_appSubmit _ _ _ _
    · rcases @bindPort_kept ctx sid with ⟨hok, hk⟩ | ⟨-, he⟩
      · generalize bindPort ctx sid = r at hok hk ⊢
        obtain ⟨c, ok⟩ := r
        dsimp only at hok hk
        rw [hok]
        dsimp only
        have hip := hk.kids.trans (kids_bindIp c sid)
        exact hip.trans (kids_sockConnectStart (hip.base h) (by rw [hip.nSocks]; exact hlt)
          ((hip.kid sid hlt).mark.trans (hfree hlt)) _ _)
      · rw [he]
        exact kids_appSubmit _ _ _ _

theorem tcpListenerInsert_sockMeta {c : TcpSlowCtx} {port : UInt16} {sockId : UInt32}
    {reuseport : Bool} (h : tcpListenerInsert ctx port sockId reuseport = some c) :
    c.sockMeta = ctx.sockMeta := by
  unfold tcpListenerInsert at h
  rw [Option.map_eq_some_iff] at h
  obtain ⟨p, -, rfl⟩ := h
  rfl

theorem kid_setSock (ctx : TcpSlowCtx) (sid : Nat) (s : TcpSock) (j : Nat) :
    (ctx.setSock sid s).kid j =
      if j = sid then { ctx.kid sid with state := s.state } else ctx.kid j := by
  unfold TcpSlowCtx.kid
  by_cases hj : j = sid
  · rw [if_pos hj, hj, TcpSlowCtx.sock_setSock]
    rfl
  · rw [if_neg hj, TcpSlowCtx.sock_setSock_ne _ _ hj]
    rfl

theorem opened_setSock {c : TcpSlowCtx} {backlog : UInt32} (h : Base ctx) (hlt : sid < ctx.nSocks)
    (hs : Same ctx c) (hm : c.sockMeta = ctx.sockMeta) (hfree : (ctx.kid sid).mark = idInvalid)
    (hinact : (ctx.listeners sid).active = false) (hshort : backlog.toNat < 2147483648) :
    KidMove ctx
      ((c.setListener sid (listenerOpen (ctx.listeners sid) backlog)).setSock sid
        { (c.setListener sid (listenerOpen (ctx.listeners sid) backlog)).sock sid with
          state := .listen }) (.opened sid) := by
  refine ⟨hlt, hfree, hinact, backlog, hshort, fun _ => ?_, hs.nSocks, ?_, ?_⟩
  · have hb := (h.same hs.toSameCore).same
      (core_setListener c sid (listenerOpen (ctx.listeners sid) backlog))
    refine hb.rekeyed (rekeyed_setSock _ sid _) rfl nofun ?_
    intro hge
    have hge' : c.nSocks ≤ sid := hge
    rw [hs.nSocks] at hge'
    exact absurd hlt (Nat.not_lt_of_le hge')
  · intro j _
    rw [kid_setSock]
    show (if j = sid then { c.kid sid with state := .listen } else c.kid j) = _
    rw [kid_of_same hs hm, kid_of_same hs hm]
  · funext j
    show (if j = sid then _ else c.listeners j) = if j = sid then _ else ctx.listeners j
    rw [hs.listeners]

/-- **A listener opens**, or the request is refused. -/
theorem handled_appListen (h : Marked ctx) {backlog : UInt32}
    (hok : sid < ctx.nSocks → (ctx.kid sid).mark = idInvalid ∧
      (ctx.listeners sid).active = false ∧ backlog.toNat < 2147483648)
    (appId ctxId : UInt8) (opaquePtr : UInt64) (callocOk : Bool) :
    Handled ctx (appListen ctx appId ctxId sid backlog opaquePtr callocOk)
      (if ListenTaken ctx sid callocOk then [.opened sid] else []) hit := by
  unfold appListen
  split
  · next hge =>
    rw [if_neg (fun hc => absurd hc.1 (Nat.not_lt_of_le hge))]
    exact (kids_appSubmit _ _ _ _).handled
  · next hlt =>
    have hlt : sid < ctx.nSocks := by omega
    obtain ⟨hfree, hinact, hshort⟩ := hok hlt
    dsimp only
    split
    · next hport =>
      rw [if_neg (fun hc => hc.2.1 hport)]
      exact (kids_appSubmit _ _ _ _).handled
    · next hport =>
      cases hins : tcpListenerInsert ctx (ctx.sock sid).localPort (ctx.sock sid).id
          (ctx.sock sid).reuport with
      | none =>
        rw [if_neg (fun hc => by have := hc.2.2.1; rw [hins] at this; cases this)]
        exact (kids_appSubmit _ _ _ _).handled
      | some c =>
        have hs := same_tcpListenerInsert hins
        have hk := hs.kids_of_meta (tcpListenerInsert_sockMeta hins)
        have hto := h.base.toNat_id hlt
        dsimp only
        split
        · next hno =>
          rw [hs.listeners] at hno
          rw [if_neg]
          · have hrem := (same_tcpListenerRemove c (ctx.sock sid).localPort
              (ctx.sock sid).id).kids_of_meta (tcpListenerRemove_sockMeta _ _)
            exact (hk.trans (hrem.trans (kids_appSubmit _ _ _ _))).handled
          · intro hc
            rcases hc.2.2.2 with hact | hcall
            · rw [hact] at hno
              cases hno.1
            · rw [hcall] at hno
              cases hno.2
        · next hgo =>
          rw [hs.listeners, hto] at hgo ⊢
          rw [if_pos]
          · have hopen : KidMove ctx _ (.opened sid) := opened_setSock h.base hlt hs
              (tcpListenerInsert_sockMeta hins) hfree hinact hshort
            exact (handled_visible hopen rfl).calm (kids_appSubmit _ _ _ _)
              (fun j => key_state ((same_appSubmit _ _ _ _).key j))
          · refine ⟨hlt, hport, by rw [hins]; rfl, .inr ?_⟩
            cases callocOk with
            | true => rfl
            | false =>
              rw [hinact] at hgo
              exact absurd ⟨rfl, rfl⟩ hgo

theorem handled_appNewSock (appId ctxId : UInt8) (opaquePtr : UInt64) :
    Handled ctx (appNewSock ctx appId ctxId opaquePtr) [] hit := by
  unfold appNewSock
  have hall := tcpSockAlloc_cases ctx opaquePtr appId ctxId (ctx.appBumpQids appId ctxId 0)
  generalize tcpSockAlloc ctx opaquePtr appId ctxId _ = r at hall ⊢
  obtain ⟨c, sid⟩ := r
  rcases hall with ⟨hsid, hu⟩ | ⟨hsid, ha⟩
  · dsimp only at hsid hu
    rw [hsid]
    exact (kids_unallocated hu).handled
  · dsimp only at hsid ha
    rw [hsid]
    have hst : (c.kid ctx.nSocks).state = .init := congrArg SockKey.state ha.key
    have hgrown : KidMove ctx c .grown := by
      refine ⟨c.kid ctx.nSocks, .inr ⟨ha.listenerId, ?_, ?_⟩, fun hb => hb.alloc ha, ha.room,
        ha.nSocks, ?_, ha.listeners⟩
      · rw [hst]
        exact SockState.noConfusion
      · rw [hst]
        exact SockState.noConfusion
      · intro j _
        by_cases hj : j = ctx.nSocks
        · rw [if_pos hj, hj]
        · rw [if_neg hj]
          unfold TcpSlowCtx.kid
          rw [ha.sock j hj, ha.sockMeta j hj]
    exact hgrown.then (fun _ _ => KidEv.noConfusion) (kids_appSubmit _ _ _ _).handled

theorem kids_appSetopt (ctx : TcpSlowCtx) (appId ctxId : UInt8) (sid : Nat) (opt : UInt8)
    (opaquePtr : UInt64) : KidsSame ctx (appSetopt ctx appId ctxId sid opt opaquePtr) := by
  unfold appSetopt
  split
  · exact KidsSame.refl ctx
  · split
    · have hs : KidsSame ctx (ctx.setSock sid { ctx.sock sid with reuport := true }) :=
        kids_setSock ctx rfl
      exact hs.trans (kids_appSubmit _ _ _ _)
    · exact kids_appSubmit _ _ _ _

end requests

/-! ## Every event -/

/-- Applications connect and listen on sockets without a mark, the ones they
were handed, and listen once on a socket; the backlog of `tcp_listen` is an
`int`. They may close children of a listener too, but for one that was closed
before it got into the flow table and has its mark still. -/
def Handed (ctx : TcpSlowCtx) : SlowAct → Prop
  | .connect _ _ sockId _ _ _ =>
    sockId.toNat < ctx.nSocks → (ctx.kid sockId.toNat).mark = idInvalid
  | .listen _ _ sockId backlog _ _ =>
    sockId.toNat < ctx.nSocks → (ctx.kid sockId.toNat).mark = idInvalid ∧
      (ctx.listeners sockId.toNat).active = false ∧ backlog.toNat < 2147483648
  | .close sockId => sockId.toNat < ctx.nSocks →
    (ctx.kid sockId.toNat).mark = idInvalid ∨ (ctx.sock sockId.toNat).state ≠ .closed
  | _ => True

instance (ctx : TcpSlowCtx) (act : SlowAct) : Decidable (Handed ctx act) :=
  match act with
  | .connect .. => inferInstanceAs (Decidable (_ → _))
  | .listen .. => inferInstanceAs (Decidable (_ → _))
  | .close _ => inferInstanceAs (Decidable (_ → _))
  | .newSock .. | .setopt .. | .bind .. | .accept .. | .shutdown .. | .segment .. | .timeout _
  | .fastRx _ | .fastDeq _ | .fastSched _ | .drain _ => inferInstanceAs (Decidable True)

/-- The visible moves of an event, read off the handler. -/
def visibleMoves (ctx : TcpSlowCtx) : SlowAct → List KidEv
  | .listen _ _ sockId _ _ callocOk =>
    if ListenTaken ctx sockId.toNat callocOk then [.opened sockId.toNat] else []
  | .accept _ _ sockId _ => acceptTakes ctx sockId.toNat
  | .close sockId =>
    if sockId.toNat < ctx.nSocks ∧ (ctx.sock sockId.toNat).state = .listen then
      [.shut sockId.toNat]
    else []
  | .segment p core => ctlRxReadies ctx p core
  | _ => []

/-- **Every event is a sequence of moves.** -/
theorem Marked.handled {ctx : TcpSlowCtx} {act : SlowAct} (h : Marked ctx) (hok : Handed ctx act)
    (hcells : ∀ k, CellsWait ctx k) :
    Handled ctx (slowNext ctx act) (visibleMoves ctx act) (hitsReady ctx act) := by
  cases act with
  | newSock appId ctxId opaquePtr => exact handled_appNewSock _ _ _
  | setopt appId ctxId sockId opt opaquePtr => exact (kids_appSetopt ctx _ _ _ _ _).handled
  | bind appId ctxId sockId localIp localPort opaquePtr =>
    exact (kids_appBind ctx _ _ _ _ _ _).handled
  | connect appId ctxId sockId remoteIp remotePort opaquePtr =>
    exact (kids_appConnect h.base hok _ _ _ _ _).handled
  | listen appId ctxId sockId backlog opaquePtr callocOk => exact handled_appListen h hok _ _ _ _
  | accept appId ctxId sockId opaquePtr => exact handled_appAccept h (hcells _) _ _ _
  | shutdown sockId how => exact handled_appShutdown h how
  | close sockId =>
    exact handled_appClose h hok fun hlt hr => decide_eq_true ⟨hlt, (of_decide_eq_true hr).2⟩
  | segment p core => exact handled_ctlRx h p core
  | timeout entry => exact handled_timeout h entry
  | fastRx env => exact ((same_fastRx ctx env).kids_of_meta rfl).handled
  | fastDeq env =>
    rcases fastDeq_cases ctx env with hs | ⟨sockId, txPort, txIp, txAvail, -, hr⟩
    · exact (hs.kids_of_meta rfl).handled
    · exact (hr.kids (fun hb => hb.rekeyed hr rfl (fun hc => hc) (fun _ => rfl))
        (.inl rfl)).handled
  | fastSched env => exact ((same_fastSched ctx env).kids_of_meta rfl).handled
  | drain q => exact ((same_drain ctx q).kids_of_meta (drain_sockMeta ctx q)).handled

end Chamelio.Tcp
