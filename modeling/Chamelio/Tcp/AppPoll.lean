import Chamelio.Tcp.AppAnswer

/-!
# Polling the applications (`tcp_app_poll`)

The slow path goes round the contexts of the applications, takes at most one
batch of requests, and hands each to its handler before it dequeues it. While
it does, the fast path and the libraries go on: a run is made of rounds of
the loop, with whatever else happens in between.

Mirroring notes:
- The counters of the loop are the `poll` of the state, `none` outside of
  `tcp_app_poll`. Control segments and timers wait until it returns; both are
  polled by the same thread.
- An application's entry of a type `tcp_app_poll` does not know is dequeued
  with a warning; such entries are left out.
- New applications and contexts get the next free index (`tcp_appif.c`), and
  a context empty queues of any length.
-/

namespace Chamelio.Tcp

open Chamelio.Lib Chamelio.Util Chamelio.Pkt Chamelio.Fast

/-- `SLOW_BATCH_SIZE`. -/
def slowBatchSize : Nat := 16

/-- `ctx->apps` with the contexts in it. -/
structure TcpApps where
  nApps : UInt8
  nextApp : UInt8
  nCtxs : UInt8 → UInt8
  nextCtx : UInt8 → UInt8
  appSlowQs : UInt8 → UInt8 → Fifo TcpAppReq

/-- `msg_nr`, `app_nr` and `ctx_nr`. -/
structure PollNrs where
  msgNr : Nat
  appNr : Nat
  ctxNr : Nat
  deriving DecidableEq

structure TcpPollSys where
  ctx : TcpSlowCtx
  apps : TcpApps
  poll : Option PollNrs

/-- `(i + 1) % n`. -/
def nextOf (i n : UInt8) : UInt8 := UInt8.ofNat ((i.toNat + 1) % n.toNat)

def TcpApps.setAppSlowQ (apps : TcpApps) (appId ctxId : UInt8) (q : Fifo TcpAppReq) : TcpApps :=
  { apps with
    appSlowQs := fun a c => if a = appId ∧ c = ctxId then q else apps.appSlowQs a c }

/-- The head of the loop: the application and context of this round; `none`:
the loop is left. -/
def pollPick (apps : TcpApps) (nr : PollNrs) : TcpApps × Option (PollNrs × UInt8 × UInt8) :=
  if ¬(nr.msgNr < slowBatchSize ∧ apps.nApps ≠ 0) then (apps, none)
  else
    let past := nr.ctxNr ≥ (apps.nCtxs apps.nextApp).toNat
    let nr := if past then { nr with appNr := nr.appNr + 1 } else nr
    let apps := if past then { apps with nextApp := nextOf apps.nextApp apps.nApps } else apps
    if nr.appNr ≥ apps.nApps.toNat ∨ apps.nCtxs apps.nextApp = 0 then (apps, none)
    else (apps, some (nr, apps.nextApp, apps.nextCtx apps.nextApp))

/-- A request taken from a queue: the state it was found in, and the one its
handler left behind. -/
structure Taken where
  appId : UInt8
  ctxId : UInt8
  req : TcpAppReq
  before : TcpPollSys
  handled : TcpPollSys

/-- One round of the loop; `callocOk` as in `appListen`. -/
def pollRound (s : TcpPollSys) (nr : PollNrs) (callocOk : Bool) : TcpPollSys × Option Taken :=
  match pollPick s.apps nr with
  | (apps, none) => ({ s with apps, poll := none }, none)
  | (apps, some (nr, appId, ctxId)) =>
    match (apps.appSlowQs appId ctxId).head? with
    | none =>
      let apps := { apps with
        nextCtx := fun a =>
          if a = appId then nextOf (apps.nextCtx a) (apps.nCtxs a) else apps.nextCtx a }
      ({ s with apps, poll := some { nr with ctxNr := nr.ctxNr + 1 } }, none)
    | some req =>
      let before := { s with apps, poll := some { nr with msgNr := nr.msgNr + 1 } }
      let handled := { before with ctx := appRequest s.ctx appId ctxId callocOk req }
      let apps := apps.setAppSlowQ appId ctxId (apps.appSlowQs appId ctxId).pop
      ({ handled with apps }, some { appId, ctxId, req, before, handled })

/-- What happens to the slow path and the queues of its applications. -/
inductive PollAct
  | poll
  | round (callocOk : Bool)
  | event (act : SlowAct)
  | request (appId ctxId : UInt8) (req : TcpAppReq)
  | response (appId ctxId : UInt8)
  | newApp
  | newActx (appId : UInt8) (reqElems resElems : Nat) (bumpQids : UInt16 → UInt16)

/-- The application got one more context. -/
def actxInit (s : TcpPollSys) (appId : UInt8) (reqElems resElems : Nat)
    (bumpQids : UInt16 → UInt16) : TcpPollSys :=
  let ctxId := s.apps.nCtxs appId
  let apps := s.apps.setAppSlowQ appId ctxId { items := [], nelems := reqElems }
  { s with
    ctx := { s.ctx with
      slowAppQs := fun a c =>
        if a = appId ∧ c = ctxId then { items := [], nelems := resElems } else s.ctx.slowAppQs a c
      appBumpQids := fun a c =>
        if a = appId ∧ c = ctxId then bumpQids else s.ctx.appBumpQids a c }
    apps := { apps with nCtxs := fun a => if a = appId then ctxId + 1 else apps.nCtxs a } }

def pollNext (s : TcpPollSys) : PollAct → TcpPollSys × Option Taken
  | .poll => ({ s with poll := some { msgNr := 0, appNr := 0, ctxNr := 0 } }, none)
  | .round callocOk =>
    match s.poll with
    | none => (s, none)
    | some nr => pollRound s nr callocOk
  | .event act => ({ s with ctx := slowNext s.ctx act }, none)
  | .request appId ctxId req =>
    match (s.apps.appSlowQs appId ctxId).push req with
    | none => (s, none)
    | some q => ({ s with apps := s.apps.setAppSlowQ appId ctxId q }, none)
  | .response appId ctxId =>
    let slowAppQs := fun a c =>
      if a = appId ∧ c = ctxId then (s.ctx.slowAppQs a c).pop else s.ctx.slowAppQs a c
    ({ s with ctx := { s.ctx with slowAppQs } }, none)
  | .newApp =>
    let appId := s.apps.nApps
    let apps := { s.apps with
      nApps := appId + 1
      nCtxs := fun a => if a = appId then 0 else s.apps.nCtxs a
      nextCtx := fun a => if a = appId then 0 else s.apps.nextCtx a }
    ({ s with apps }, none)
  | .newActx appId reqElems resElems bumpQids =>
    (actxInit s appId reqElems resElems bumpQids, none)

/-- What the thread of the slow path does besides handling requests. -/
def SlowAct.isRequest : SlowAct → Bool
  | .segment _ _ => false
  | .timeout _ => false
  | .fastRx _ => false
  | .fastDeq _ => false
  | .fastSched _ => false
  | .drain _ => false
  | _ => true

/-- What happens beside that thread. -/
def SlowAct.isFast : SlowAct → Bool
  | .fastRx _ => true
  | .fastDeq _ => true
  | .fastSched _ => true
  | .drain _ => true
  | _ => false

/-- Steps that can be taken: requests come out of the queues only, and the
slow path does one thing at a time. -/
def PollOk (s : TcpPollSys) : PollAct → Prop
  | .poll => s.poll = none
  | .round _ => s.poll ≠ none
  | .event act => act.isFast = true ∨ act.isRequest = false ∧ s.poll = none
  | .newApp => s.poll = none
  | .newActx appId _ _ _ => appId < s.apps.nApps ∧ s.poll = none
  | _ => True

instance (s : TcpPollSys) (act : PollAct) : Decidable (PollOk s act) :=
  match act with
  | .poll => inferInstanceAs (Decidable (_ = _))
  | .round _ => inferInstanceAs (Decidable (_ ≠ _))
  | .event _ => inferInstanceAs (Decidable (_ ∨ _ ∧ _))
  | .newApp => inferInstanceAs (Decidable (_ = _))
  | .newActx _ _ _ _ => inferInstanceAs (Decidable (_ ∧ _))
  | .request _ _ _ => inferInstanceAs (Decidable True)
  | .response _ _ => inferInstanceAs (Decidable True)

/-- The slow path after `tcp_init`, with no application. -/
structure PollInit (s : TcpPollSys) : Prop where
  ctx : SlowInit s.ctx
  nApps : s.apps.nApps = 0
  nextApp : s.apps.nextApp = 0
  poll : s.poll = none

/-! ## Every request that is taken -/

/-- A handler ran on the request at the head of its queue, in a state of the
slow path. -/
structure TakenOk (t : Taken) : Prop where
  ring : RingBase t.before.ctx
  low : PortsLow t.before.ctx
  head : (t.before.apps.appSlowQs t.appId t.ctxId).head? = some t.req
  apps : t.handled.apps = t.before.apps
  handled : ∃ callocOk, t.handled.ctx = appRequest t.before.ctx t.appId t.ctxId callocOk t.req

/-- What holds after a run of the system. -/
structure PollInv (log : List (Option Taken)) (s : TcpPollSys) : Prop where
  ring : RingBase s.ctx
  low : PortsLow s.ctx
  taken : ∀ t, some t ∈ log → TakenOk t

theorem RingBase.same {a b : TcpSlowCtx} (h : RingBase a) (hs : Same a b) : RingBase b :=
  ⟨h.base.same hs.toSameCore, h.names.cells hs.cells⟩

theorem PollInit.inv {s : TcpPollSys} (h : PollInit s) : PollInv [] s :=
  ⟨h.ctx.ringBase, h.ctx.portsLow, fun _ ht => absurd ht List.not_mem_nil⟩

section steps

variable {log : List (Option Taken)} {s s' : TcpPollSys}

/-- A step that takes no request. -/
theorem PollInv.quiet (h : PollInv log s) (hring : RingBase s'.ctx) (hlow : PortsLow s'.ctx) :
    PollInv (log ++ [none]) s' := by
  refine ⟨hring, hlow, fun t ht => ?_⟩
  rcases List.mem_append.mp ht with hold | hnew
  · exact h.taken t hold
  · cases List.mem_singleton.mp hnew

/-- A step that changes none of the sockets. -/
theorem PollInv.still (h : PollInv log s) (hs : Same s.ctx s'.ctx) :
    PollInv (log ++ [none]) s' :=
  h.quiet (h.ring.same hs) (h.low.same hs.toSameCore)

theorem PollInv.request {t : Taken} (h : PollInv log s) (ht : TakenOk t)
    (hctx : s'.ctx = t.handled.ctx) : PollInv (log ++ [some t]) s' := by
  obtain ⟨callocOk, hreq⟩ := ht.handled
  obtain ⟨act, hact⟩ := appRequest_next t.before.ctx t.appId t.ctxId callocOk t.req
  refine ⟨?_, ?_, fun u hu => ?_⟩
  · rw [hctx, hreq, hact]
    exact ht.ring.next act
  · rw [hctx, hreq, hact]
    exact ht.low.next ht.ring.base act
  · rcases List.mem_append.mp hu with hold | hnew
    · exact h.taken u hold
    · cases List.mem_singleton.mp hnew
      exact ht

theorem PollInv.round (h : PollInv log s) (nr : PollNrs) (callocOk : Bool) :
    PollInv (log ++ [(pollRound s nr callocOk).2]) (pollRound s nr callocOk).1 := by
  unfold pollRound
  generalize pollPick s.apps nr = r
  obtain ⟨apps, pick⟩ := r
  cases pick with
  | none => exact h.still (Same.refl _)
  | some p =>
    obtain ⟨nr', appId, ctxId⟩ := p
    dsimp only
    cases hhead : (apps.appSlowQs appId ctxId).head? with
    | none => exact h.still (Same.refl _)
    | some req => exact h.request ⟨h.ring, h.low, hhead, rfl, ⟨callocOk, rfl⟩⟩ rfl

theorem PollInv.next (h : PollInv log s) (act : PollAct) :
    PollInv (log ++ [(pollNext s act).2]) (pollNext s act).1 := by
  cases act with
  | poll => exact h.still (Same.refl _)
  | round callocOk =>
    dsimp only [pollNext]
    cases s.poll with
    | none => exact h.still (Same.refl _)
    | some nr => exact h.round nr callocOk
  | event act => exact h.quiet (h.ring.next act) (h.low.next h.ring.base act)
  | request appId ctxId req =>
    dsimp only [pollNext]
    cases (s.apps.appSlowQs appId ctxId).push req with
    | none => exact h.still (Same.refl _)
    | some q => exact h.still (Same.refl _)
  | response appId ctxId => exact h.still (Same.of_fields rfl rfl rfl rfl rfl rfl)
  | newApp => exact h.still (Same.refl _)
  | newActx appId reqElems resElems bumpQids =>
    exact h.still (Same.of_fields rfl rfl rfl rfl rfl rfl)

end steps

/-- The state of the slow path at every request of every run. -/
theorem taken_ok {s₀ s : TcpPollSys} {log : List (Option Taken)} (h : PollInit s₀)
    (hrun : Run PollOk pollNext s₀ log s) {t : Taken} (ht : some t ∈ log) : TakenOk t :=
  (hrun.inv h.inv fun _ _ act hinv _ => hinv.next act).taken t ht

/-! ## Every request that is taken is answered, or not -/

/-- The answer is there before the request is dequeued. -/
def AnsweredInTime (t : Taken) : Prop :=
  (t.handled.apps.appSlowQs t.appId t.ctxId).head? = some t.req ∧
    Answered t.before.ctx t.handled.ctx t.appId t.ctxId t.req

/-- **A request that blocks its caller is answered exactly when it asks for
no new socket, or one can be had**: a request for a new socket that finds the
socket map or the memory full is dequeued without a response. -/
theorem app_request_answered_iff {s₀ s : TcpPollSys} {log : List (Option Taken)}
    (h : PollInit s₀) (hrun : Run PollOk pollNext s₀ log s) {t : Taken} (ht : some t ∈ log)
    (hreq : t.req.blocking = true)
    (hroom : (t.before.ctx.slowAppQs t.appId t.ctxId).hasRoom = true) :
    AnsweredInTime t ↔ ReqServed t.before.ctx t.req := by
  have hok := taken_ok h hrun ht
  obtain ⟨callocOk, hhandled⟩ := hok.handled
  unfold AnsweredInTime
  rw [hok.apps, hok.head, hhandled, appRequest_answered_iff hok.ring hok.low hroom callocOk hreq]
  exact and_iff_right rfl

/-- No application yet. -/
def noApps : TcpApps :=
  { nApps := 0, nextApp := 0, nCtxs := fun _ => 0, nextCtx := fun _ => 0
    appSlowQs := fun _ _ => { items := [], nelems := 0 } }

/-- An application connects, asks for a socket, and is polled. -/
def askNewSock : List PollAct :=
  [.newApp, .newActx 0 16 16 fun _ => 0, .request 0 0 (.newSockReq 7), .poll, .round true]

/-- With memory for its buffers, the socket is there and its request
answered. -/
theorem app_request_answered_fresh :
    ∃ log s t, Run PollOk pollNext ⟨freshSlow, noApps, none⟩ log s ∧ some t ∈ log ∧
      t.req = .newSockReq 7 ∧ AnsweredInTime t := by
  have hrun := Run.execOk askNewSock
    (Run.nil : Run PollOk pollNext ⟨freshSlow, noApps, none⟩ [] _) (by decide)
  have hmem : ∃ t, some t ∈ (execAll pollNext askNewSock ⟨freshSlow, noApps, none⟩).1 ∧
      t.req = .newSockReq 7 ∧ (t.before.ctx.slowAppQs t.appId t.ctxId).hasRoom = true ∧
      NewSockServed t.before.ctx :=
    ⟨_, List.mem_of_getElem? (i := 4) rfl, rfl, rfl, by decide, rfl, rfl⟩
  obtain ⟨t, ht, hreq, hroom, hserved⟩ := hmem
  refine ⟨_, _, t, hrun, ht, hreq, ?_⟩
  refine (app_request_answered_iff ⟨freshSlow_init, rfl, rfl, rfl⟩ hrun ht ?_ hroom).mpr ?_
  · rw [hreq]
    rfl
  · rw [hreq]
    exact hserved

/-- A slow path that gets no more memory. -/
def noMemory : TcpSlowCtx := { freshSlow with newQueues := fun _ => none }

/-- Without memory, the request is taken and its caller waits for ever. -/
theorem app_request_unanswered :
    ∃ s₀ log s t, PollInit s₀ ∧ Run PollOk pollNext s₀ log s ∧ some t ∈ log ∧
      t.req.blocking = true ∧ (t.before.ctx.slowAppQs t.appId t.ctxId).hasRoom = true ∧
      ¬AnsweredInTime t := by
  have hrun := Run.execOk askNewSock
    (Run.nil : Run PollOk pollNext ⟨noMemory, noApps, none⟩ [] _) (by decide)
  have hmem : ∃ t, some t ∈ (execAll pollNext askNewSock ⟨noMemory, noApps, none⟩).1 ∧
      t.req = .newSockReq 7 ∧ (t.before.ctx.slowAppQs t.appId t.ctxId).hasRoom = true ∧
      (t.handled.ctx.slowAppQs t.appId t.ctxId).items =
        (t.before.ctx.slowAppQs t.appId t.ctxId).items :=
    ⟨_, List.mem_of_getElem? (i := 4) rfl, rfl, rfl, rfl⟩
  obtain ⟨t, ht, hreq, hroom, hsame⟩ := hmem
  have hinit : SlowInit noMemory :=
    ⟨rfl, fun _ => rfl, rfl, fun _ _ => rfl, rfl, fun _ => rfl, fun _ => rfl, fun _ => rfl,
      fun _ => rfl⟩
  refine ⟨_, _, _, t, ⟨hinit, rfl, rfl, rfl⟩, hrun, ht, by rw [hreq]; rfl, hroom, fun h => ?_⟩
  obtain ⟨res, -, hitems, -⟩ := h.2.answer
  rw [hsame] at hitems
  exact List.cons_ne_nil res [] (List.self_eq_append_right.mp hitems)

end Chamelio.Tcp
