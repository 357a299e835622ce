import Chamelio.Tcp.Timers

/-!
# The timer of every socket

Each handler keeps `TimerInv`, on every one of its paths: a control segment
that cannot be sent and a timer that cannot be had end in a close or in a
failed connect, which stop the timer. The one exception is a listen request:
`app_listen` puts any socket in `LISTEN`, also one that waits for an answer,
and leaves its timer running.
-/

namespace Chamelio.Tcp

open Chamelio.Lib Chamelio.Util Chamelio.Pkt Chamelio.Fast

section handlers

variable {ctx : TcpSlowCtx} {sid : Nat}

/-! ## Expiry -/

/-- The entry that expired is that of the socket. -/
theorem timerPopped_eq {e : Nat} (ht : (ctx.tcpSockMeta sid).timer = some e) :
    timerPopped ctx e sid = (tcpTimeoutCancel ctx sid).setMeta sid
      { ctx.tcpSockMeta sid with timer := none } := by
  have htomgr : (tcpTimeoutCancel ctx sid).tomgr = tomgrRemove ctx.tomgr e := by
    show tomgrCancel ctx.tomgr (ctx.tcpSockMeta sid).timer = _
    rw [ht]
    rfl
  unfold timerPopped
  rw [← htomgr]
  unfold TcpSlowCtx.setMeta tcpTimeoutCancel
  dsimp only
  congr 1
  funext i
  show (if i = (ctx.sock sid).id.toNat then _ else ctx.sockMeta i) =
    if i = (ctx.sock sid).id.toNat then _
    else if i = (ctx.sock sid).id.toNat then _ else ctx.sockMeta i
  split
  · rfl
  · rfl

/-- No answer came: the socket is closed, or its connect fails. -/
theorem TimerBut.expire (h : TimerBut ctx sid) (hlt : sid < ctx.nSocks)
    (hk : (ctx.sockMeta sid).retxKind ≠ .none) : TimerInv (sockRetxExpire ctx sid) := by
  unfold sockRetxExpire
  dsimp only
  rw [h.linked.meta_eq hlt]
  have habort := tm_ctlPktEnqueue ctx
  split
  · exact h.fail hlt etimedout
  · exact (h.same (habort _)).close (by rw [(habort _).nSocks]; exact hlt)
  · exact (h.same (habort _)).close (by rw [(habort _).nSocks]; exact hlt)
  · next hkind => exact absurd hkind hk

/-- **A timeout.** Its entry is free, so a new timer is always had. -/
theorem TimerBut.onTimeout (h : TimerBut ctx sid) (hlt : sid < ctx.nSocks)
    (ht : (ctx.sockMeta sid).timer = none)
    (hk : (ctx.sockMeta sid).retxKind = timerKind (ctx.sock sid).state)
    (hne : (ctx.sockMeta sid).retxKind ≠ .none) {e : Nat} (he : e < tomgrSize)
    (hfree : ctx.tomgr.entries e = none) : TimerInv (sockOnTimeout ctx sid) := by
  unfold sockOnTimeout
  split
  · exact h.expire hlt hne
  · have htx := tm_sockRetxTx ctx sid
    generalize sockRetxTx ctx sid = r at htx ⊢
    obtain ⟨c, ok⟩ := r
    dsimp only at htx ⊢
    have hltc : sid < c.nSocks := by rw [htx.nSocks]; exact hlt
    split
    · refine (h.same htx).expire hltc ?_
      rw [(htx.at_ sid).kind]
      exact hne
    · have hm := htx.trans (@tm_setMeta c sid
        { c.tcpSockMeta sid with retxLeft := (c.tcpSockMeta sid).retxLeft - 1 } rfl rfl)
      generalize c.setMeta sid _ = d at hm ⊢
      have hltd : sid < d.nSocks := by rw [hm.nSocks]; exact hlt
      have hsched := (h.same hm).sched hltd (by rw [(hm.at_ sid).timer]; exact ht)
      have hsock := sockRetxSched_sock d sid sid
      generalize sockRetxSched d sid = r at hsched hsock ⊢
      obtain ⟨d', ok'⟩ := r
      dsimp only at hsched hsock ⊢
      split
      · next hno =>
        -- The manager would be full.
        cases hsched with
        | armed => cases hno
        | full _ hlive =>
          have hent := hlive e he
          rw [(hm.at_ sid).tomgr, hfree] at hent
          cases hent
      · next hyes =>
        refine hsched.fits (by rw [hsock]) ?_ ?_ ?_
        · rw [(hm.at_ sid).kind, hm.state]
          exact hk
        · rw [(hm.at_ sid).kind]
          exact hne
        · cases ok' with
          | true => rfl
          | false => exact absurd rfl hyes

theorem TimerInv.fire (h : TimerInv ctx) {e : Nat} (he : ctx.tomgr.entries e = some sid) :
    TimerInv (tcpTimeoutFire ctx e sid) := by
  obtain ⟨hlt, ht⟩ := (h.linked.link e sid).mp he
  have hid := h.linked.ids sid hlt
  have hmeta := h.linked.meta_eq hlt
  have hfit := h.fit sid hlt
  have hne : (ctx.sockMeta sid).retxKind ≠ .none :=
    hfit.timer.mp (by show (ctx.sockMeta sid).timer.isSome = true; rw [ht]; rfl)
  have hstop := stopped_tcpTimeoutCancel hid
  have hbut := (h.but sid).stopped hlt hstop
  have hset := @TimerBut.setKind _ _ { ctx.tcpSockMeta sid with timer := none } hbut hlt
    hstop.at_timer.symm
  rw [← timerPopped_eq (by rw [hmeta]; exact ht)] at hset
  have hat : (timerPopped ctx e sid).sockMeta sid = { ctx.sockMeta sid with timer := none } := by
    rw [← hmeta]
    exact if_pos hid.symm
  have hatm : (timerPopped ctx e sid).tcpSockMeta sid = { ctx.sockMeta sid with timer := none } :=
    (hset.linked.meta_eq hlt).trans hat
  show TimerInv (if ((timerPopped ctx e sid).tcpSockMeta sid).retxKind = .none then
    timerPopped ctx e sid else sockOnTimeout (timerPopped ctx e sid) sid)
  rw [hatm, if_neg hne]
  refine hset.onTimeout hlt (by rw [hat]) (by rw [hat]; exact hfit.kind) (by rw [hat]; exact hne)
    (h.linked.small e sid he) ?_
  exact if_pos rfl

/-! ## Closing -/

theorem TimerInv.close (h : TimerInv ctx) (hlt : sid < ctx.nSocks) :
    TimerInv (tcpSockCloseFinal ctx sid) := (h.but sid).close hlt

/-- Close after steps that leave the timers alone. -/
theorem TimerInv.closeAfter {c : TcpSlowCtx} (h : TimerInv ctx) (hs : TmSame ctx c)
    (hlt : sid < ctx.nSocks) : TimerInv (tcpSockCloseFinal c sid) :=
  (h.same hs).close (by rw [hs.nSocks]; exact hlt)

/-- **A FIN is sent and timed**, or the socket is closed. -/
theorem TimerInv.shutdownStart (h : TimerInv ctx) (hlt : sid < ctx.nSocks) :
    TimerInv (sockShutdownStart ctx sid) := by
  unfold sockShutdownStart
  dsimp only
  have hat : TmAt ctx (ctx.setSock sid
      { ctx.sock sid with flags := (ctx.sock sid).flags ||| sockFlagShut, state := .finWait1 })
      sid := tmAt_setSock ctx rfl
  have hst : ((ctx.setSock sid { ctx.sock sid with
      flags := (ctx.sock sid).flags ||| sockFlagShut, state := .finWait1 }).sock sid).state
      = .finWait1 := by rw [TcpSlowCtx.sock_setSock]
  generalize ctx.setSock sid _ = c at hat hst ⊢
  have htx := tm_tcpCtlTx c sid (tcpFin ||| tcpAck)
  generalize tcpCtlTx c sid _ = r at htx ⊢
  obtain ⟨d, ok⟩ := r
  dsimp only at htx ⊢
  have hbut := ((h.but sid).at hat).same htx
  have hltd : sid < d.nSocks := by rw [htx.nSocks, hat.nSocks]; exact hlt
  split
  · exact hbut.close hltd
  · obtain ⟨hfail, hok⟩ := hbut.arm hltd (show RetxKind.fin = _ by rw [htx.state, hst]; rfl)
      RetxKind.noConfusion
    have hn := tcpTimeoutArm_nSocks d sid .fin
    generalize tcpTimeoutArm d sid .fin = r at hfail hok hn ⊢
    obtain ⟨d', ok'⟩ := r
    dsimp only at hfail hok hn ⊢
    split
    · exact hfail.close (by rw [hn]; exact hltd)
    · next hyes =>
      apply hok
      cases ok' with
      | true => rfl
      | false => exact absurd rfl hyes

theorem TimerInv.shutdown (h : TimerInv ctx) (how : Nat) : TimerInv (appShutdown ctx sid how) := by
  unfold appShutdown
  split
  · exact h
  · next hlt =>
    split
    · exact h
    · exact h.shutdownStart (by omega)

theorem TimerInv.abortOpen (h : TimerInv ctx) (hlt : sid < ctx.nSocks) :
    TimerInv (sockAbortOpen ctx sid) := by
  unfold sockAbortOpen
  dsimp only
  split
  · exact h.closeAfter (tm_tcpCtlTx _ _ _) hlt
  · exact h.close hlt

/-- The children of a listener are closed one after the other. -/
theorem TimerInv.abortChildren (listenerId : UInt32) (l : List Nat) :
    ∀ {ctx : TcpSlowCtx}, TimerInv ctx → (∀ i ∈ l, i < ctx.nSocks) →
      TimerInv (l.foldl (abortChild listenerId) ctx) ∧
        (l.foldl (abortChild listenerId) ctx).nSocks = ctx.nSocks := by
  induction l with
  | nil => exact fun h _ => ⟨h, rfl⟩
  | cons i l ih =>
    intro ctx h hl
    have hi := hl i List.mem_cons_self
    have hone : TimerInv (abortChild listenerId ctx i) ∧
        (abortChild listenerId ctx i).nSocks = ctx.nSocks := by
      unfold abortChild
      split
      · exact ⟨h, rfl⟩
      · split
        · exact ⟨h, rfl⟩
        · dsimp only
          split
          · have hs := tm_tcpCtlTx ctx i (tcpRst ||| tcpAck)
            exact ⟨h.closeAfter hs hi, (tcpSockCloseFinal_nSocks _ i).trans hs.nSocks⟩
          · exact ⟨h.close hi, tcpSockCloseFinal_nSocks ctx i⟩
    rw [List.foldl_cons]
    obtain ⟨hinv, hn⟩ := ih hone.1 (fun j hj => by
      rw [hone.2]
      exact hl j (List.mem_cons_of_mem _ hj))
    exact ⟨hinv, hn.trans hone.2⟩

theorem TimerInv.closeListen (h : TimerInv ctx) (hlt : sid < ctx.nSocks) :
    TimerInv (sockCloseListen ctx sid) := by
  unfold sockCloseListen
  dsimp only
  have hs := tm_tcpListenerRemove ctx (ctx.sock sid).localPort (ctx.sock sid).id
  have h₁ := h.same hs
  generalize tcpListenerRemove ctx _ _ = c at hs h₁ ⊢
  unfold tcpListenerAbortChildren
  obtain ⟨h₂, hn⟩ := TimerInv.abortChildren (c.sock sid).id (List.range c.nSocks) h₁
    (fun i hi => List.mem_range.mp hi)
  generalize (List.range c.nSocks).foldl _ c = d at h₂ hn ⊢
  exact h₂.closeAfter (tm_setListener _ _ _) (by rw [hn, hs.nSocks]; exact hlt)

theorem TimerInv.appClose (h : TimerInv ctx) : TimerInv (appClose ctx sid) := by
  unfold Tcp.appClose
  split
  · exact h
  · next hlt =>
    have hlt : sid < ctx.nSocks := by omega
    split
    · exact h.closeListen hlt
    · exact h.abortOpen hlt
    · exact h.abortOpen hlt
    · exact h.abortOpen hlt
    · exact h.shutdownStart hlt
    · exact h.close hlt

/-! ## Connecting, listening, accepting -/

/-- **A SYN is sent and timed**, or the connect fails. -/
theorem TimerInv.connectStart (h : TimerInv ctx) (hlt : sid < ctx.nSocks) (remoteIp : UInt32)
    (remotePort : UInt16) : TimerInv (sockConnectStart ctx sid remoteIp remotePort) := by
  unfold sockConnectStart
  dsimp only
  have hat : TmAt ctx (ctx.setSock sid (connectSock ctx (ctx.sock sid) remoteIp remotePort)) sid :=
    tmAt_setSock ctx rfl
  have hst : ((ctx.setSock sid (connectSock ctx (ctx.sock sid) remoteIp remotePort)).sock
      sid).state = .synSent := by
    rw [TcpSlowCtx.sock_setSock]
    rfl
  generalize ctx.setSock sid _ = c at hat hst ⊢
  have hbut := (h.but sid).at hat
  have hltc : sid < c.nSocks := by rw [hat.nSocks]; exact hlt
  cases hd : tcpFlowInsert c sid with
  | none => exact hbut.fail hltc enobufs
  | some d =>
    dsimp only
    have hs := (tm_tcpFlowInsert c hd).trans (tm_tcpCtlTx d sid (synFlags (d.sock sid)))
    generalize tcpCtlTx d sid _ = r at hs ⊢
    obtain ⟨d₁, ok⟩ := r
    dsimp only at hs ⊢
    have hltd : sid < d₁.nSocks := by rw [hs.nSocks]; exact hltc
    split
    · exact (hbut.same hs).fail hltd eagain
    · obtain ⟨hfail, hok⟩ := (hbut.same hs).arm hltd
        (show RetxKind.syn = _ by rw [hs.state, hst]; rfl) RetxKind.noConfusion
      have hn := tcpTimeoutArm_nSocks d₁ sid .syn
      generalize tcpTimeoutArm d₁ sid .syn = r at hfail hok hn ⊢
      obtain ⟨d₂, ok₂⟩ := r
      dsimp only at hfail hok hn ⊢
      split
      · exact hfail.fail (by rw [hn]; exact hltd) enobufs
      · next hyes =>
        apply hok
        cases ok₂ with
        | true => rfl
        | false => exact absurd rfl hyes

theorem TimerInv.connect (h : TimerInv ctx) (appId ctxId : UInt8) (remoteIp : UInt32)
    (remotePort : UInt16) (opaquePtr : UInt64) :
    TimerInv (appConnect ctx appId ctxId sid remoteIp remotePort opaquePtr) := by
  unfold appConnect
  split
  · exact h.same (tm_appSubmit _ _ _ _)
  · next hreq =>
    split
    · exact h.same (tm_appSubmit _ _ _ _)
    · have hp := tm_bindPort ctx sid
      generalize bindPort ctx sid = r at hp ⊢
      obtain ⟨c, ok⟩ := r
      cases ok with
      | false => exact h.same (hp.trans (tm_appSubmit _ _ _ _))
      | true =>
        have hip := hp.trans (tm_bindIp c sid)
        exact (h.same hip).connectStart (by rw [hip.nSocks]; omega) _ _

theorem TimerInv.bind (h : TimerInv ctx) (appId ctxId : UInt8) (localIp : UInt32)
    (localPort : UInt16) (opaquePtr : UInt64) :
    TimerInv (appBind ctx appId ctxId sid localIp localPort opaquePtr) := by
  unfold appBind
  split
  · exact h
  · split
    · have hp := tm_bindPort ctx sid
      generalize bindPort ctx sid = r at hp ⊢
      obtain ⟨c, ok⟩ := r
      have hip := hp.trans (tm_bindIp c sid)
      cases ok with
      | false => exact h.same (hip.trans (tm_appSubmit _ _ _ _))
      | true =>
        dsimp only
        have hset := hip.trans (@tm_setSock (bindIp c sid) sid
          { (bindIp c sid).sock sid with localIp, localPort } rfl rfl)
        exact h.same (hset.trans (tm_appSubmit _ _ _ _))
    · exact h.same (tm_appSubmit _ _ _ _)

/-- **A listen**, on a socket without a timer. -/
theorem TimerInv.listen (h : TimerInv ctx) {callocOk : Bool}
    (hidle : ListenTaken ctx sid callocOk → timerKind (ctx.sock sid).state = .none)
    (appId ctxId : UInt8) (backlog : UInt32) (opaquePtr : UInt64) :
    TimerInv (appListen ctx appId ctxId sid backlog opaquePtr callocOk) := by
  unfold appListen
  split
  · exact h.same (tm_appSubmit _ _ _ _)
  · next hlt =>
    dsimp only
    split
    · exact h.same (tm_appSubmit _ _ _ _)
    · next hport =>
      cases hins : tcpListenerInsert ctx (ctx.sock sid).localPort (ctx.sock sid).id
          (ctx.sock sid).reuport with
      | none => exact h.same (tm_appSubmit _ _ _ _)
      | some c =>
        have hs := tm_tcpListenerInsert ctx hins
        have hls := (same_tcpListenerInsert hins).listeners
        dsimp only
        split
        · exact h.same (hs.trans ((tm_tcpListenerRemove _ _ _).trans (tm_appSubmit _ _ _ _)))
        · next hgo =>
          rw [hls] at hgo ⊢
          have hlt : sid < ctx.nSocks := by omega
          have hnone : timerKind (ctx.sock sid).state = .none := by
            refine hidle ⟨hlt, hport, by rw [hins]; rfl, ?_⟩
            cases hact : (ctx.listeners (ctx.sock sid).id.toNat).active with
            | true => exact .inl rfl
            | false =>
              cases callocOk with
              | true => exact .inr rfl
              | false => exact absurd ⟨by rw [hact]; rfl, rfl⟩ hgo
          refine TimerInv.same ?_ (tm_appSubmit _ _ _ _)
          have hl := hs.trans (tm_setListener c (ctx.sock sid).id.toNat
            (listenerOpen (ctx.listeners (ctx.sock sid).id.toNat) backlog))
          generalize c.setListener _ _ = d at hl ⊢
          obtain ⟨ht, hk⟩ := (h.fit sid hlt).idle hnone
          have hat : TmAt d (d.setSock sid { d.sock sid with state := .listen }) sid :=
            tmAt_setSock d rfl
          refine (((h.but sid).same hl).at hat).done (TmOk.stopped ?_ ?_ ?_)
          · show timerKind ((d.setSock sid _).sock sid).state = .none
            rw [TcpSlowCtx.sock_setSock]
            rfl
          · exact (hat.timer sid).trans (((hl.at_ sid).timer sid).trans ht)
          · exact (hat.kind sid).trans (((hl.at_ sid).kind sid).trans hk)

/-- Another state without a timer. -/
theorem TimerInv.move (h : TimerInv ctx) {c : TcpSlowCtx} (hat : TmAt ctx c sid)
    (hlt : sid < ctx.nSocks) (ha : timerKind (ctx.sock sid).state = .none)
    (hb : timerKind (c.sock sid).state = .none) : TimerInv c := by
  obtain ⟨ht, hk⟩ := (h.fit sid hlt).idle ha
  exact ((h.but sid).at hat).done
    (TmOk.stopped hb ((hat.timer sid).trans ht) ((hat.kind sid).trans hk))

theorem TimerInv.accept (hb : Base ctx) (h : TimerInv ctx) (appId ctxId : UInt8)
    (opaquePtr : UInt64) : TimerInv (appAccept ctx appId ctxId sid opaquePtr) := by
  unfold appAccept
  split
  · exact h.same (tm_appSubmit _ _ _ _)
  · dsimp only
    split
    · exact h.same (tm_appSubmit _ _ _ _)
    · have hpop := tm_readyPopLoop (ctx.sock sid).id
        (ctx.listeners (ctx.sock sid).id.toNat).readyUsed.toNat ctx
      have hst := (core_readyPopLoop (ctx.sock sid).id
        (ctx.listeners (ctx.sock sid).id.toNat).readyUsed.toNat ctx).2
      unfold tcpListenerReadyPop
      generalize readyPopLoop (ctx.sock sid).id _ ctx = r at hpop hst ⊢
      obtain ⟨c, child⟩ := r
      cases child with
      | none => exact h.same (hpop.trans (tm_appSubmit _ _ _ _))
      | some i =>
        dsimp only at hpop hst ⊢
        have hsti := hst i rfl
        have hi : i < ctx.nSocks := by
          rw [hpop.state] at hsti
          apply hb.lt_of_state
          · rw [hsti]
            exact SockState.noConfusion
          · rw [hsti]
            exact SockState.noConfusion
        refine TimerInv.same ?_ (tm_appSubmit _ _ _ _)
        refine TimerInv.same ?_ (tm_setListener _ _ _)
        unfold sockAcceptOwn
        have hm := hpop.trans (@tm_setMeta c i
          { c.tcpSockMeta i with listenerId := idInvalid } rfl rfl)
        refine @TimerInv.move _ i (h.same hm) _ (tmAt_setSock _ rfl) ?_ ?_ ?_
        · rw [hm.nSocks]
          exact hi
        · rw [hm.state, ← hpop.state, hsti]
          rfl
        · rw [TcpSlowCtx.sock_setSock]
          rfl

/-! ## Control segments -/

theorem TimerInv.rxSynSent (h : TimerInv ctx) (hlt : sid < ctx.nSocks) (rx : TcpRxCtl) :
    TimerInv (tcpRxSynSent ctx sid rx) := by
  unfold tcpRxSynSent
  split
  · exact (h.but sid).fail hlt econnrefused
  · split
    · exact h
    · split
      · exact h
      · dsimp only
        refine TimerInv.same ?_ ((tm_tcpCtlTx _ _ _).trans (tm_appSubmit _ _ _ _))
        unfold sockActiveEstablished
        have hstop := stopped_tcpTimeoutCancel (h.linked.ids sid hlt)
        refine (h.but sid).ended hlt (hstop.at (tmAt_setSock _ rfl)) ?_
        rw [TcpSlowCtx.sock_setSock]
        rfl

/-- An accepted connection: its timer is off before it joins its listener. -/
theorem TimerInv.passiveEstablished (h : TimerInv ctx) (hlt : sid < ctx.nSocks) (rx : TcpRxCtl) :
    TimerInv (sockPassiveEstablished ctx sid rx).1 := by
  unfold sockPassiveEstablished
  dsimp only
  have hstop := stopped_tcpTimeoutCancel (h.linked.ids sid hlt)
  have hat : TmAt (tcpTimeoutCancel ctx sid) ((tcpTimeoutCancel ctx sid).setSock sid
      { (tcpTimeoutCancel ctx sid).sock sid with
        txRemoteAvail := rx.wnd.toUInt32
        txPending := ((tcpTimeoutCancel ctx sid).sock sid).txPending - 1
        txSeq := ((tcpTimeoutCancel ctx sid).sock sid).txSeq + 1
        state := .acceptPending }) sid := tmAt_setSock _ rfl
  have hend := (h.but sid).ended hlt (hstop.at hat) (by
    rw [TcpSlowCtx.sock_setSock]
    rfl)
  generalize (tcpTimeoutCancel ctx sid).setSock sid _ = c at hat hend ⊢
  unfold tcpListenerReadyPush
  dsimp only
  split
  · simp only [Bool.not_false, if_true]
    exact hend.close (by rw [hat.nSocks]; exact hlt)
  · simp only [Bool.not_true, Bool.false_eq_true, if_false]
    exact hend.same (tm_setListener _ _ _)

theorem TimerInv.rxSynRecv (h : TimerInv ctx) (hlt : sid < ctx.nSocks) (rx : TcpRxCtl) :
    TimerInv (tcpRxSynRecv ctx sid rx) := by
  unfold tcpRxSynRecv
  split
  · exact h.close hlt
  · split
    · exact h.same (tm_ctlPktEnqueue _ _)
    · split
      · exact h
      · have hest := h.passiveEstablished hlt rx
        generalize sockPassiveEstablished ctx sid rx = r at hest ⊢
        obtain ⟨c, ok⟩ := r
        dsimp only at hest ⊢
        split
        · exact hest
        · exact hest.same (tm_appSubmit _ _ _ _)

theorem TimerInv.rxEstablished (h : TimerInv ctx) (hlt : sid < ctx.nSocks) (rx : TcpRxCtl) :
    TimerInv (tcpRxEstablished ctx sid rx) := by
  unfold tcpRxEstablished
  split
  · exact h.close hlt
  · split
    · dsimp only
      have hset : TmSame ctx (ctx.setSock sid { ctx.sock sid with rxSeq := rx.seq + 1 }) :=
        tm_setSock ctx rfl rfl
      exact h.closeAfter (hset.trans (tm_tcpCtlTx _ _ _)) hlt
    · exact h

theorem TimerInv.rxFinWait1 (h : TimerInv ctx) (hlt : sid < ctx.nSocks) (rx : TcpRxCtl) :
    TimerInv (tcpRxFinWait1 ctx sid rx) := by
  unfold tcpRxFinWait1
  dsimp only
  have hfin : TmSame ctx (if rx.flags &&& tcpFin ≠ 0 then
      (tcpCtlTx (ctx.setSock sid { ctx.sock sid with rxSeq := rx.seq + 1 }) sid tcpAck).1
      else ctx) := by
    split
    · have hset : TmSame ctx (ctx.setSock sid { ctx.sock sid with rxSeq := rx.seq + 1 }) :=
        tm_setSock ctx rfl rfl
      exact hset.trans (tm_tcpCtlTx _ _ _)
    · exact TmSame.refl ctx
  generalize (if rx.flags &&& tcpFin ≠ 0 then _ else ctx) = c at hfin ⊢
  have h₁ := h.same hfin
  have hltc : sid < c.nSocks := by rw [hfin.nSocks]; exact hlt
  have hend : TimerInv (tcpSockCloseFinal (tcpTimeoutCancel c sid) sid) :=
    ((h₁.but sid).stopped hltc (stopped_tcpTimeoutCancel (h₁.linked.ids sid hltc))).close hltc
  split
  · exact hend
  · split
    · exact hend
    · exact h₁

theorem TimerInv.sockCtlRx (h : TimerInv ctx) (hlt : sid < ctx.nSocks) (rx : TcpRxCtl) :
    TimerInv (sockCtlRx ctx sid rx) := by
  unfold Tcp.sockCtlRx
  split
  · exact h.rxSynSent hlt rx
  · exact h.rxSynRecv hlt rx
  · exact h.rxEstablished hlt rx
  · exact h.rxEstablished hlt rx
  · exact h.rxFinWait1 hlt rx
  · exact h

/-! ## New sockets -/

/-- A new socket has no timer. -/
theorem TimerInv.allocated {c : TcpSlowCtx} (h : TimerInv ctx) (ha : Allocated ctx c) :
    TimerInv c := by
  have hfresh := h.linked.fresh ctx.nSocks (Nat.le_refl _)
  have hlt : ∀ i, i < c.nSocks → i = ctx.nSocks ∨ i < ctx.nSocks := by
    intro i hi
    rw [ha.nSocks] at hi
    omega
  refine ⟨⟨?_, ?_, ?_, ?_⟩, ?_⟩
  · intro i hi
    rcases hlt i hi with rfl | hi
    · have hid : (c.sock ctx.nSocks).id = UInt32.ofNat ctx.nSocks := congrArg SockKey.id ha.key
      rw [hid, toNat_ofNat_sock ha.room]
    · rw [ha.sock i (by omega)]
      exact h.linked.ids i hi
  · intro e i
    rw [ha.tomgr, ha.timer i, h.linked.link, ha.nSocks]
    constructor
    · exact fun hc => ⟨by omega, hc.2⟩
    · rintro ⟨hi, ht⟩
      refine ⟨?_, ht⟩
      apply Classical.byContradiction
      intro hge
      rw [(h.linked.fresh i (Nat.le_of_not_lt hge)).1] at ht
      cases ht
  · intro e i he
    rw [ha.tomgr] at he
    exact h.linked.small e i he
  · intro i hi
    rw [ha.nSocks] at hi
    rw [ha.timer i, ha.kind i]
    exact h.linked.fresh i (by omega)
  · intro i hi
    rcases hlt i hi with rfl | hi
    · refine TmOk.stopped ?_ ((ha.timer _).trans hfresh.1) ((ha.kind _).trans hfresh.2)
      rw [show (c.tm ctx.nSocks).state = .init from congrArg SockKey.state ha.key]
      rfl
    · have htm : c.tm i = ctx.tm i := by
        unfold TcpSlowCtx.tm
        rw [ha.sock i (by omega), ha.sockMeta i (by omega)]
      rw [htm]
      exact h.fit i hi

theorem TimerInv.unallocated {c : TcpSlowCtx} (h : TimerInv ctx) (hu : Unallocated ctx c) :
    TimerInv c := by
  refine ⟨⟨?_, ?_, ?_, ?_⟩, ?_⟩
  · intro i hi
    rw [hu.nSocks] at hi
    rw [hu.sock i (by omega)]
    exact h.linked.ids i hi
  · intro e i
    rw [hu.tomgr, hu.timer i, hu.nSocks]
    exact h.linked.link e i
  · intro e i he
    rw [hu.tomgr] at he
    exact h.linked.small e i he
  · intro i hi
    rw [hu.nSocks] at hi
    rw [hu.timer i, hu.kind i]
    exact h.linked.fresh i hi
  · intro i hi
    rw [hu.nSocks] at hi
    have htm : c.tm i = ctx.tm i := by
      unfold TcpSlowCtx.tm
      rw [hu.sock i (by omega), hu.sockMeta i (by omega)]
    rw [htm]
    exact h.fit i hi

theorem TimerInv.newSock (h : TimerInv ctx) (appId ctxId : UInt8) (opaquePtr : UInt64) :
    TimerInv (appNewSock ctx appId ctxId opaquePtr) := by
  unfold appNewSock
  have hall := tcpSockAlloc_cases ctx opaquePtr appId ctxId (ctx.appBumpQids appId ctxId 0)
  generalize tcpSockAlloc ctx opaquePtr appId ctxId _ = r at hall ⊢
  obtain ⟨c, i⟩ := r
  rcases hall with ⟨hi, hu⟩ | ⟨hi, ha⟩
  · dsimp only at hi hu
    rw [hi]
    exact h.unallocated hu
  · dsimp only at hi ha
    rw [hi]
    exact (h.allocated ha).same (tm_appSubmit _ _ _ _)

/-- **A SYN-ACK is sent and timed**, or the child is closed. -/
theorem TimerInv.child (h : TimerInv ctx) (hlt : sid < ctx.nSocks) (hst : timerKind
    (ctx.sock sid).state = .none) (listenSid : Nat) (rx : TcpRxCtl) :
    TimerInv (listenChild ctx listenSid sid rx) := by
  unfold listenChild
  dsimp only
  have hset : TmAt ctx (ctx.setSock sid (childSock ctx (ctx.sock sid) rx)) sid :=
    tmAt_setSock ctx rfl
  have hstc : ((ctx.setSock sid (childSock ctx (ctx.sock sid) rx)).sock sid).state = .synRecv := by
    rw [TcpSlowCtx.sock_setSock]
    rfl
  generalize ctx.setSock sid (childSock ctx (ctx.sock sid) rx) = c at hset hstc ⊢
  have hmeta := @tm_setMeta c sid
    { c.tcpSockMeta sid with listenerId := (ctx.sock listenSid).id } rfl rfl
  generalize c.setMeta sid _ = d at hmeta ⊢
  have hat := hset.trans (hmeta.at_ sid)
  have hbut := (h.but sid).at hat
  have hltd : sid < d.nSocks := by rw [hat.nSocks]; exact hlt
  cases hins : tcpFlowInsert d sid with
  | none =>
    dsimp only
    have hclosed : TmAt d (d.setSock sid { d.sock sid with state := .closed }) sid :=
      tmAt_setSock d rfl
    refine TimerInv.same (h.move (hat.trans hclosed) hlt hst ?_) (tm_replyRst _ _ _ _)
    rw [TcpSlowCtx.sock_setSock]
    rfl
  | some f =>
    dsimp only
    have hf := tm_tcpFlowInsert d hins
    have hl := hf.trans (tm_setListener f (ctx.sock listenSid).id.toNat
      { f.listeners (ctx.sock listenSid).id.toNat with
        backlogUsed := (f.listeners (ctx.sock listenSid).id.toNat).backlogUsed + 1 })
    generalize f.setListener _ _ = f₁ at hl ⊢
    have htx := hl.trans (tm_tcpCtlTx f₁ sid (synackFlags (f₁.sock sid)))
    generalize tcpCtlTx f₁ sid _ = r at htx ⊢
    obtain ⟨g, ok⟩ := r
    dsimp only at htx ⊢
    have hltg : sid < g.nSocks := by rw [htx.nSocks]; exact hltd
    split
    · exact ((hbut.same htx).close hltg).same (tm_replyRst _ _ _ _)
    · obtain ⟨hfail, hok⟩ := (hbut.same htx).arm hltg
        (show RetxKind.synack = _ by rw [htx.state, hmeta.state, hstc]; rfl)
        RetxKind.noConfusion
      have hn := tcpTimeoutArm_nSocks g sid .synack
      generalize tcpTimeoutArm g sid .synack = r at hfail hok hn ⊢
      obtain ⟨g', ok'⟩ := r
      dsimp only at hfail hok hn ⊢
      split
      · have hrst := tm_replyRst g' rx (g'.sock sid).txSeq (g'.sock sid).rxSeq
        exact (hfail.same hrst).close (by rw [hrst.nSocks, hn]; exact hltg)
      · next hyes =>
        apply hok
        cases ok' with
        | true => rfl
        | false => exact absurd rfl hyes

theorem TimerInv.rxListenSyn (h : TimerInv ctx) (listenSid : Nat) (rx : TcpRxCtl) :
    TimerInv (tcpRxListenSyn ctx listenSid rx) := by
  unfold tcpRxListenSyn
  dsimp only
  split
  · exact h.same (tm_replyRst _ _ _ _)
  · split
    · exact h
    · have hall := tcpSockAlloc_cases ctx 0 0 0 0
      generalize tcpSockAlloc ctx 0 0 0 0 = r at hall ⊢
      obtain ⟨c, i⟩ := r
      rcases hall with ⟨hi, hu⟩ | ⟨hi, ha⟩
      · dsimp only at hi hu
        rw [hi]
        exact h.unallocated hu
      · dsimp only at hi ha
        rw [hi]
        refine (h.allocated ha).child (by rw [ha.nSocks]; omega) ?_ _ _
        rw [show (c.sock ctx.nSocks).state = .init from congrArg SockKey.state ha.key]
        rfl

theorem TimerInv.segment (hb : Base ctx) (h : TimerInv ctx) (p : Nat → UInt8) (core : UInt16) :
    TimerInv (ctlRx ctx p core) := by
  unfold ctlRx
  dsimp only
  generalize ctlRxParse p _ = rx
  cases hf : tcpFlowLookup ctx rx.localIp rx.localPort rx.remoteIp rx.remotePort with
  | some i =>
    have hts := tm_slowSockTsRx ctx i rx
    refine (h.same hts).sockCtlRx ?_ rx
    rw [hts.nSocks]
    exact (tcpFlowLookup_some hb hf).1
  | none =>
    dsimp only
    split
    · exact h
    · have hl := tm_tcpListenerLookup ctx rx.localIp rx.localPort
      generalize tcpListenerLookup ctx rx.localIp rx.localPort = r at hl ⊢
      obtain ⟨c, k⟩ := r
      cases k with
      | none => exact h.same (hl.trans (tm_replyRst _ _ _ _))
      | some k => exact (h.same hl).rxListenSyn _ rx

end handlers

/-! ## Every run -/

/-- A listen that is acted on names a socket that waits for no answer. -/
def ListenIdle (ctx : TcpSlowCtx) : SlowAct → Prop
  | .listen _ _ sockId _ _ callocOk =>
    ListenTaken ctx sockId.toNat callocOk → timerKind (ctx.sock sockId.toNat).state = .none
  | _ => True

instance (ctx : TcpSlowCtx) (act : SlowAct) : Decidable (ListenIdle ctx act) :=
  match act with
  | .listen .. => inferInstanceAs (Decidable (_ → _))
  | .newSock .. | .setopt .. | .bind .. | .connect .. | .accept .. | .shutdown .. | .close _
  | .segment .. | .timeout _ | .fastRx _ | .fastDeq _ | .fastSched _ | .drain _ =>
    inferInstanceAs (Decidable True)

theorem TimerInv.next {ctx : TcpSlowCtx} {act : SlowAct} (hb : Base ctx) (h : TimerInv ctx)
    (hok : ListenIdle ctx act) : TimerInv (slowNext ctx act) := by
  cases act with
  | newSock appId ctxId opaquePtr => exact h.newSock _ _ _
  | setopt appId ctxId sockId opt opaquePtr =>
    show TimerInv (appSetopt ctx appId ctxId sockId.toNat opt opaquePtr)
    unfold appSetopt
    split
    · exact h
    · split
      · have hset : TmSame ctx (ctx.setSock sockId.toNat
            { ctx.sock sockId.toNat with reuport := true }) := tm_setSock ctx rfl rfl
        exact h.same (hset.trans (tm_appSubmit _ _ _ _))
      · exact h.same (tm_appSubmit _ _ _ _)
  | bind appId ctxId sockId localIp localPort opaquePtr => exact h.bind _ _ _ _ _
  | connect appId ctxId sockId remoteIp remotePort opaquePtr => exact h.connect _ _ _ _ _
  | listen appId ctxId sockId backlog opaquePtr callocOk => exact h.listen hok _ _ _ _
  | accept appId ctxId sockId opaquePtr => exact h.accept hb _ _ _
  | shutdown sockId how => exact h.shutdown how
  | close sockId => exact h.appClose
  | segment p core => exact h.segment hb p core
  | timeout entry =>
    unfold slowNext
    dsimp only
    cases he : ctx.tomgr.entries entry with
    | none => exact h
    | some sid =>
      dsimp only
      split
      · exact h.fire he
      · exact h
  | fastRx env =>
    refine h.same (tm_withFast ctx (fun i => ?_))
    have hk := (same_fastRx ctx env).key i
    exact ⟨congrArg SockKey.id hk, key_state hk⟩
  | fastDeq env =>
    refine h.same (tm_withFast ctx (fun i => ?_))
    rcases fastDeq_cases ctx env with hs | ⟨sockId, txPort, txIp, txAvail, -, hr⟩
    · exact ⟨congrArg SockKey.id (hs.key i), key_state (hs.key i)⟩
    · -- A transmit bump changes the remote address only.
      have hk := hr.key i
      split at hk
      · next hi =>
        rw [hi] at hk ⊢
        exact ⟨congrArg SockKey.id hk, congrArg SockKey.state hk⟩
      · exact ⟨congrArg SockKey.id hk, congrArg SockKey.state hk⟩
  | fastSched env =>
    refine h.same (tm_withFast ctx (fun i => ?_))
    have hk := (same_fastSched ctx env).key i
    exact ⟨congrArg SockKey.id hk, key_state hk⟩
  | drain q => exact h.same ((same_drain ctx q).tm (drain_sockMeta ctx q) (drain_tomgr ctx q))

theorem SlowInit.timers {ctx : TcpSlowCtx} (h : SlowInit ctx) : TimerInv ctx := by
  refine ⟨⟨?_, ?_, ?_, ?_⟩, ?_⟩
  · intro i hi
    rw [h.nSocks] at hi
    exact absurd hi (Nat.not_lt_zero i)
  · intro e i
    rw [h.tomgr e, h.nSocks]
    exact ⟨nofun, fun hc => absurd hc.1 (Nat.not_lt_zero i)⟩
  · intro e i he
    rw [h.tomgr e] at he
    cases he
  · intro i _
    rw [h.sockMeta i]
    exact ⟨rfl, rfl⟩
  · intro i hi
    rw [h.nSocks] at hi
    exact absurd hi (Nat.not_lt_zero i)

/-- The timer of socket `i`, by its state. -/
structure TimerOf (ctx : TcpSlowCtx) (i : Nat) : Prop where
  /-- In `SYN_SENT`, `SYN_RECV` and `FIN_WAIT1` one entry of the manager is
  that of the socket, and `meta->timer` points to it. -/
  one : timerKind (ctx.sock i).state ≠ .none →
    ∃ e, (ctx.sockMeta i).timer = some e ∧ ∀ e', ctx.tomgr.entries e' = some i ↔ e' = e
  /-- In every other state none is. -/
  no : timerKind (ctx.sock i).state = .none →
    (ctx.sockMeta i).timer = none ∧ ∀ e, ctx.tomgr.entries e ≠ some i
  kind : (ctx.sockMeta i).retxKind = timerKind (ctx.sock i).state

theorem TimerInv.of {ctx : TcpSlowCtx} (h : TimerInv ctx) {i : Nat} (hi : i < ctx.nSocks) :
    TimerOf ctx i := by
  have hfit := h.fit i hi
  refine ⟨?_, ?_, hfit.kind⟩
  · intro hk
    have hsome : (ctx.sockMeta i).timer.isSome = true :=
      hfit.timer.mpr (fun hc => hk (hfit.kind.symm.trans hc))
    obtain ⟨e, he⟩ := Option.isSome_iff_exists.mp hsome
    refine ⟨e, he, ?_⟩
    intro e'
    rw [h.linked.link, he]
    exact ⟨fun hc => (Option.some.inj hc.2).symm, fun hc => ⟨hi, by rw [hc]⟩⟩
  · intro hk
    obtain ⟨ht, -⟩ := hfit.idle hk
    refine ⟨ht, ?_⟩
    intro e he
    have hown := ((h.linked.link e i).mp he).2
    rw [show (ctx.sockMeta i).timer = none from ht] at hown
    cases hown

/-- **The timers, along every run** in which no listen is acted on for a
socket that waits for an answer. -/
theorem timer_of_state {ctx₀ ctx : TcpSlowCtx} {log : List Unit} (h₀ : SlowInit ctx₀)
    (hr : Run ListenIdle slowStep ctx₀ log ctx) (i : Nat) (hi : i < ctx.nSocks) :
    TimerOf ctx i := by
  have hinv : Base ctx ∧ TimerInv ctx := Run.inv (I := fun _ ctx => Base ctx ∧ TimerInv ctx)
    ⟨h₀.base, h₀.timers⟩ (fun _ _ act h hok => ⟨h.1.next act, h.2.next h.1 hok⟩) hr
  exact hinv.2.of hi

section peer

/-- A segment from port 80 of `10.0.0.2` to a client at port 1002. -/
def serverSegment (seq ack : UInt32) (flags : UInt16) : SlowAct :=
  .segment (ctlPktFill
    { localIp := 0x0a000002, localPort := 80, remoteIp := 0x0a000001, remotePort := 1002
      seq, ack, flags, wnd := 1000, tsRecent := none }) 0

/-- A client connects and is answered. -/
def connectRun : List SlowAct :=
  [.newSock 0 0 0, .bind 0 0 0 0x0a000001 1002 0, .connect 0 0 0 0x0a000002 80 0,
    serverSegment 100 2 (tcpSyn ||| tcpAck)]

/-- It shuts the connection down, and its FIN is timed. -/
theorem timer_of_state_fin :
    let ctx := (execAll slowStep (connectRun ++ [.shutdown 0 2]) freshSlow).2
    ((ctx.sock 0).state = .finWait1 ∧ ctx.tomgr.entries 0 = some 0) ∧ TimerOf ctx 0 :=
  ⟨by decide +kernel, timer_of_state freshSlow_init
    (Run.execOk (connectRun ++ [.shutdown 0 2]) Run.nil (by decide +kernel)) 0 (by decide +kernel)⟩

/-- It listens on the socket while its FIN is not acknowledged. -/
def listenClosingRun : List SlowAct := connectRun ++ [.shutdown 0 2, .listen 0 0 0 1 0 true]

/-- The FIN timer of the listening socket runs on. -/
theorem timer_left_running :
    ¬ ∀ (ctx₀ ctx : TcpSlowCtx) (log : List Unit), SlowInit ctx₀ →
      Run (fun _ _ => True) slowStep ctx₀ log ctx → ∀ i, i < ctx.nSocks → TimerOf ctx i := by
  intro h
  have ht := h freshSlow _ _ freshSlow_init (Run.execAll listenClosingRun Run.nil) 0
    (by decide +kernel)
  have hst : timerKind (((execAll slowStep listenClosingRun freshSlow).2.sock 0).state) = .none := by
    decide +kernel
  exact absurd (ht.no hst).1 (by decide +kernel)

end peer

end Chamelio.Tcp
