import Chamelio.Lib.Run
import Chamelio.Udp.PortSteps

/-!
# Setting an option from an application (`udp_setsockopt`)

A library counts its descriptors from 0, per application; the slow path
counts the sockets of all applications together, and tells a library the id
of each in the response to its request. `udp_setsockopt` sends the
descriptor where the slow path looks for the id. `handle_sock_setopt` takes
any id up to `MAX_SOCKETS` for a socket, and one above it too: it answers
that with a failure, and goes on.

Mirroring notes:
- `appOf` says which application a context is of. Applications, contexts and
  the slow path take turns in any order; a request or a response is handled
  in one step, the wait of the library is the turns of the others.
- A pointer to a socket of the library is its index in `socks`.
- Of a socket of the library only what descriptors are about is kept. `fd` is
  the index, or `SOCK_INACTIVE`.
- `next_sockfd` is an `int` that every call counts up, a failed one too. It is
  a natural number here, which is right for the first 2^31 calls of an
  application; the source does not check the wrap behind them.
- Besides its library, an application may write requests of its own.
-/

namespace Chamelio.Udp

open Chamelio.Lib Chamelio.Fast

/-- `MAX_SOCKETS` of the library. -/
def maxSocketsLib : Nat := 8192

/-- Requests on `app_slow_q`. -/
inductive UdpAppReq
  | newSockReq (opaquePtr : UInt64)
  | setoptReq (opt : UInt8) (sockId : UInt32) (opaquePtr : UInt64)
  | bindReq (sockId localIp : UInt32) (localPort : UInt16) (opaquePtr : UInt64)

/-- `struct udp_socket_lib` of an open descriptor. -/
structure UdpFd where
  ctx : Nat
  /-- `none`: the response is not there yet. -/
  sockId : Option UInt32

/-- `struct udp_lib`. -/
structure UdpFdLib where
  nextSockfd : Nat
  /-- `none`: `SOCK_INACTIVE`. -/
  socks : Nat → Option UdpFd

/-- An entry with the descriptor of the call that wrote it; `none`: no call of
the library did. -/
structure UdpReq where
  req : UdpAppReq
  caller : Option Nat

/-- The slow path, the libraries by application, the requests by context. -/
structure UdpAppSys where
  slow : UdpSlow
  libs : Nat → UdpFdLib
  appSlowQs : Nat → Fifo UdpReq

def UdpAppSys.setLib (s : UdpAppSys) (app : Nat) (lib : UdpFdLib) : UdpAppSys :=
  { s with libs := fun i => if i = app then lib else s.libs i }

def UdpAppSys.setAppSlowQ (s : UdpAppSys) (c : Nat) (q : Fifo UdpReq) : UdpAppSys :=
  { s with appSlowQs := fun i => if i = c then q else s.appSlowQs i }

/-! ## The library -/

/-- `queue_tail` and `queue_enqueue` on `app_slow_q`; without room the call
fails. -/
def appRequest (s : UdpAppSys) (c : Nat) (r : UdpReq) : UdpAppSys :=
  match (s.appSlowQs c).push r with
  | none => s
  | some q => s.setAppSlowQ c q

def lookupSock (lib : UdpFdLib) (c : Nat) (sockfd : Int) : Option Nat :=
  if sockfd < 0 ∨ sockfd ≥ maxSocketsLib then none
  else
    match lib.socks sockfd.toNat with
    | none => none
    | some sock => if sock.ctx = c then some sockfd.toNat else none

def udpSocket (appOf : Nat → Nat) (s : UdpAppSys) (c : Nat) : UdpAppSys :=
  let lib := s.libs (appOf c)
  let fd := lib.nextSockfd
  let lib := { lib with nextSockfd := fd + 1 }
  if fd ≥ maxSocketsLib then s.setLib (appOf c) lib
  else
    let socks := fun i => if i = fd then some { ctx := c, sockId := none } else lib.socks i
    let s := s.setLib (appOf c) { lib with socks }
    appRequest s c { req := .newSockReq (UInt64.ofNat fd), caller := some fd }

/-- Up to the wait for the response. -/
def udpSetsockopt (appOf : Nat → Nat) (s : UdpAppSys) (c : Nat) (sockfd : Int) (opt : UInt8) :
    UdpAppSys :=
  match lookupSock (s.libs (appOf c)) c sockfd with
  | none => s
  | some fd =>
    appRequest s c
      { req := .setoptReq opt (UInt32.ofNat fd) (UInt64.ofNat fd), caller := some fd }

/-- `handle_new_sock_res`. -/
def handleNewSockRes (lib : UdpFdLib) (sockId : UInt32) (opaquePtr : UInt64) : UdpFdLib :=
  { lib with
    socks := fun i =>
      if i = opaquePtr.toNat then
        (lib.socks i).map fun sock => { sock with sockId := some sockId }
      else lib.socks i }

/-- One response taken by `udp_poll_slow`. -/
def udpPollSlow (appOf : Nat → Nat) (s : UdpAppSys) (c : Nat) : UdpAppSys :=
  let taken := { s with slow := (s.slow.step (.takeAnswer c)).1 }
  match (s.slow.actxs c).slowAppQ.head? with
  | some (.newSockRes sockId opaquePtr _ _ _) =>
    taken.setLib (appOf c) (handleNewSockRes (s.libs (appOf c)) sockId opaquePtr)
  | some _ => taken
  | none => s

/-! ## The slow path -/

/-- What the memory has for a handler: the answers of `cham_new_queue`, and
the old contents of an entry. -/
structure UdpEnv where
  rxq : Option ProtoQueue
  txq : Option ProtoQueue
  old : Bool × UInt64

/-- The `switch` of `poll_apps`. -/
def UdpAppReq.act (c : Nat) (env : UdpEnv) : UdpAppReq → UdpAct
  | .newSockReq opaquePtr => .newSock c opaquePtr env.rxq env.txq
  | .setoptReq opt sockId opaquePtr => .setopt c sockId opt opaquePtr env.old
  | .bindReq sockId localIp localPort opaquePtr => .bind c sockId localPort localIp opaquePtr

/-- A request that was handled, before it is dequeued. -/
structure Handled where
  ctx : Nat
  req : UdpReq
  before : UdpAppSys
  after : UdpAppSys

/-- A round of `poll_apps` on context `c`. -/
def pollApp (s : UdpAppSys) (c : Nat) (env : UdpEnv) : UdpAppSys × Option Handled :=
  match (s.appSlowQs c).head? with
  | none => (s, none)
  | some req =>
    let after := { s with slow := (s.slow.step (req.req.act c env)).1 }
    (after.setAppSlowQ c (s.appSlowQs c).pop, some { ctx := c, req, before := s, after })

inductive UdpAppAct
  | socket (c : Nat)
  | setsockopt (c : Nat) (sockfd : Int) (opt : UInt8)
  | request (c : Nat) (req : UdpAppReq)
  | pollSlow (c : Nat)
  | pollApp (c : Nat) (env : UdpEnv)
  | fast (act : UdpAct)

def udpAppStep (appOf : Nat → Nat) (s : UdpAppSys) : UdpAppAct → UdpAppSys × Option Handled
  | .socket c => (udpSocket appOf s c, none)
  | .setsockopt c sockfd opt => (udpSetsockopt appOf s c sockfd opt, none)
  | .request c req => (appRequest s c { req, caller := none }, none)
  | .pollSlow c => (udpPollSlow appOf s c, none)
  | .pollApp c env => pollApp s c env
  | .fast act => ({ s with slow := (s.slow.step act).1 }, none)

/-- Requests are handled by `poll_apps` only. -/
def UdpAct.isFast : UdpAct → Bool
  | .rx _ _ => true
  | .deq _ _ => true
  | _ => false

def UdpAppOk (_ : UdpAppSys) : UdpAppAct → Prop
  | .fast act => act.isFast = true
  | _ => True

instance (s : UdpAppSys) (act : UdpAppAct) : Decidable (UdpAppOk s act) :=
  match act with
  | .fast _ => inferInstanceAs (Decidable (_ = _))
  | .socket _ => inferInstanceAs (Decidable True)
  | .setsockopt _ _ _ => inferInstanceAs (Decidable True)
  | .request _ _ => inferInstanceAs (Decidable True)
  | .pollSlow _ => inferInstanceAs (Decidable True)
  | .pollApp _ _ => inferInstanceAs (Decidable True)

/-- After `init_udp_slow_context` and `udp_init` of any applications: no
socket, no descriptor. -/
structure UdpAppInit (s : UdpAppSys) : Prop where
  slow : ∃ m nFpCores localIp actxs, s.slow = initUdpSlowContext m nFpCores localIp actxs
  nextSockfd : ∀ app, (s.libs app).nextSockfd = 0
  socks : ∀ app i, (s.libs app).socks i = none

/-! ## What an option has to do -/

/-- The socket a request is for: the one whose id was returned to the
descriptor of the call; a request by hand names it itself. -/
def Handled.belongs (appOf : Nat → Nat) (t : Handled) (sockId : UInt32) : Option UInt32 :=
  match t.req.caller with
  | none => some sockId
  | some fd => ((t.before.libs (appOf t.ctx)).socks fd).bind UdpFd.sockId

/-- **One response, and one flag at most.** An id that was not given out
fails and changes nothing. -/
structure SetoptRight (appOf : Nat → Nat) (t : Handled) (sockId : UInt32) (opaquePtr : UInt64) :
    Prop where
  one : ∃ ok, (t.after.slow.actxs t.ctx).slowAppQ.items =
      (t.before.slow.actxs t.ctx).slowAppQ.items ++ [.setoptRes ok opaquePtr] ∧
    (sockId ≥ t.before.slow.nSocks → ok = false)
  others : ∀ c, c ≠ t.ctx → t.after.slow.actxs c = t.before.slow.actxs c
  rest : t.after.slow.nSocks = t.before.slow.nSocks ∧
    t.after.slow.maps = { t.before.slow.maps with socks := t.after.slow.maps.socks }
  socks : ∀ i, t.after.slow.maps.socks i = t.before.slow.maps.socks i ∨
    sockId < t.before.slow.nSocks ∧ (t.belongs appOf sockId).map UInt32.toNat = some i ∧
      ∃ reuport, t.after.slow.maps.socks i = { t.before.slow.maps.socks i with reuport }

/-- The request names a socket, its own where that matters, and there is room
for the response. -/
structure SetoptServed (appOf : Nat → Nat) (t : Handled) (opt : UInt8) (sockId : UInt32) :
    Prop where
  room : (t.before.slow.actxs t.ctx).slowAppQ.hasRoom = true
  given : sockId < t.before.slow.nSocks
  own : opt = soReuseport → t.belongs appOf sockId = some sockId ∨
    (t.before.slow.maps.socks sockId.toNat).reuport = true

section answers

variable {s : UdpSlow} {a : Nat}

theorem answer_room (h : (s.actxs a).slowAppQ.hasRoom = true) (e : UdpSlowQe) :
    ((answer s a e).actxs a).slowAppQ.items = (s.actxs a).slowAppQ.items ++ [e] := by
  unfold answer
  rw [Fifo.push_of_room h]
  simp

/-- Answering adds at the end, if at all. -/
theorem answer_grows (s : UdpSlow) (a : Nat) (e : UdpSlowQe) :
    ∃ l, ((answer s a e).actxs a).slowAppQ.items = (s.actxs a).slowAppQ.items ++ l := by
  unfold answer
  cases hp : (s.actxs a).slowAppQ.push e with
  | none => exact ⟨[], (List.append_nil _).symm⟩
  | some q =>
    refine ⟨[e], ?_⟩
    rw [← Fifo.push_items hp]
    simp

theorem answer_others (s : UdpSlow) (a : Nat) (e : UdpSlowQe) {c : Nat} (hc : c ≠ a) :
    (answer s a e).actxs c = s.actxs c := by
  unfold answer
  split
  · rfl
  · exact if_neg hc

end answers

section setopt

variable {s : UdpSlow} {a : Nat} {sockId : UInt32} {opt : UInt8} {opaquePtr : UInt64}
  {old : Bool × UInt64}

/-- Without room there is no response. -/
theorem handleSockSetopt_full (hroom : (s.actxs a).slowAppQ.hasRoom = false) :
    handleSockSetopt s a sockId opt opaquePtr old = s := by
  unfold handleSockSetopt
  rw [hroom]
  rfl

variable (sockId opt opaquePtr old) in
/-- The first response says success, whatever the id. -/
theorem handleSockSetopt_first (hroom : (s.actxs a).slowAppQ.hasRoom = true) :
    ∃ l, ((handleSockSetopt s a sockId opt opaquePtr old).actxs a).slowAppQ.items =
      (s.actxs a).slowAppQ.items ++ .setoptRes true opaquePtr :: l ∧
      (sockId ≤ maxSockets → l = []) := by
  unfold handleSockSetopt
  rw [if_neg (by rw [hroom]; exact Bool.false_ne_true)]
  dsimp only
  generalize hs : (if opt = soReuseport then s.setSock sockId.toNat
    { s.maps.socks sockId.toNat with reuport := true } else s) = s₁
  have hq : s₁.actxs = s.actxs := by
    rw [← hs]
    split
    · rfl
    · rfl
  have hfirst := answer_room (s := s₁) (a := a) (by rw [hq]; exact hroom)
    (.setoptRes true opaquePtr)
  rw [hq] at hfirst
  split
  · next hbig =>
    obtain ⟨l, hl⟩ := answer_grows (answer s₁ a (.setoptRes true opaquePtr)) a
      (.setoptRes old.1 old.2)
    refine ⟨l, ?_, fun hle => absurd hbig (UInt32.not_lt.mpr hle)⟩
    rw [hl, hfirst, List.append_assoc]
    rfl
  · exact ⟨[], hfirst, fun _ => rfl⟩

theorem handleSockSetopt_others {c : Nat} (hc : c ≠ a) :
    (handleSockSetopt s a sockId opt opaquePtr old).actxs c = s.actxs c := by
  unfold handleSockSetopt
  dsimp only
  split
  · rfl
  · have hset : (if opt = soReuseport then s.setSock sockId.toNat
        { s.maps.socks sockId.toNat with reuport := true } else s).actxs = s.actxs := by
      split
      · rfl
      · rfl
    split
    · rw [answer_others _ _ _ hc, answer_others _ _ _ hc, hset]
    · rw [answer_others _ _ _ hc, hset]

variable (sockId opt opaquePtr old) in
/-- Only the flag of the entry the id stands for is written, and only by
`SO_REUSEPORT`. -/
theorem handleSockSetopt_socks (hroom : (s.actxs a).slowAppQ.hasRoom = true) (i : Nat) :
    (handleSockSetopt s a sockId opt opaquePtr old).maps.socks i =
      if opt = soReuseport ∧ i = sockId.toNat then
        { s.maps.socks i with reuport := true }
      else s.maps.socks i := by
  rw [handleSockSetopt_maps hroom]
  by_cases hopt : opt = soReuseport
  · by_cases hi : i = sockId.toNat
    · simp [hopt, hi, UdpSlow.setSock]
    · simp [hopt, hi, UdpSlow.setSock]
  · simp [hopt]

theorem handleSockSetopt_rest :
    (handleSockSetopt s a sockId opt opaquePtr old).maps =
      { s.maps with socks := (handleSockSetopt s a sockId opt opaquePtr old).maps.socks } := by
  cases hroom : (s.actxs a).slowAppQ.hasRoom with
  | false => rw [handleSockSetopt_full hroom]
  | true =>
    rw [handleSockSetopt_maps hroom]
    split
    · rfl
    · rfl

end setopt

/-! ## Over every run -/

/-- No more sockets than the map has entries. -/
def SocksFit (s : UdpSlow) : Prop := s.nSocks ≤ maxSockets

theorem SocksFit.step {s : UdpSlow} (h : SocksFit s) (act : UdpAct) : SocksFit (s.step act).1 := by
  have hsame : (s.step act).1.nSocks = s.nSocks → SocksFit (s.step act).1 := by
    intro hn
    unfold SocksFit
    rw [hn]
    exact h
  cases step_effect s act with
  | same _ hn => exact hsame hn
  | bound _ _ _ _ _ hn => exact hsame hn
  | reuse _ _ hn => exact hsame hn
  | reset hfull _ hn =>
    rcases hn with hn | hn
    · exact hsame hn
    · unfold SocksFit
      rw [hn]
      unfold maxSockets at hfull ⊢
      rw [UInt32.le_iff_toNat_le, UInt32.toNat_add]
      rw [UInt32.lt_iff_toNat_lt] at hfull
      have hone : (1 : UInt32).toNat = 1 := rfl
      have hmax : (65534 : UInt32).toNat = 65534 := rfl
      omega

/-- What the handler of a request started from and left. -/
structure HandledOk (t : Handled) : Prop where
  fit : SocksFit t.before.slow
  after : ∃ env, t.after =
    { t.before with slow := (t.before.slow.step (t.req.req.act t.ctx env)).1 }

structure HandledInv (log : List (Option Handled)) (s : UdpAppSys) : Prop where
  fit : SocksFit s.slow
  handled : ∀ t, some t ∈ log → HandledOk t

section runs

variable {appOf : Nat → Nat} {log : List (Option Handled)} {s s' : UdpAppSys}

theorem HandledInv.quiet (h : HandledInv log s) (hfit : SocksFit s'.slow) :
    HandledInv (log ++ [none]) s' := by
  refine ⟨hfit, fun t ht => ?_⟩
  rcases List.mem_append.mp ht with hold | hnew
  · exact h.handled t hold
  · cases List.mem_singleton.mp hnew

theorem HandledInv.still (h : HandledInv log s) (hs : s'.slow = s.slow) :
    HandledInv (log ++ [none]) s' := by
  refine h.quiet ?_
  rw [hs]
  exact h.fit

theorem appRequest_slow (s : UdpAppSys) (c : Nat) (r : UdpReq) :
    (appRequest s c r).slow = s.slow := by
  unfold appRequest
  split
  · rfl
  · rfl

theorem udpSocket_slow (s : UdpAppSys) (c : Nat) : (udpSocket appOf s c).slow = s.slow := by
  unfold udpSocket
  dsimp only
  split
  · rfl
  · exact appRequest_slow _ _ _

theorem udpSetsockopt_slow (s : UdpAppSys) (c : Nat) (sockfd : Int) (opt : UInt8) :
    (udpSetsockopt appOf s c sockfd opt).slow = s.slow := by
  unfold udpSetsockopt
  split
  · rfl
  · exact appRequest_slow _ _ _

theorem HandledInv.step (h : HandledInv log s) (act : UdpAppAct) :
    HandledInv (log ++ [(udpAppStep appOf s act).2]) (udpAppStep appOf s act).1 := by
  cases act with
  | socket c => exact h.still (udpSocket_slow s c)
  | setsockopt c sockfd opt => exact h.still (udpSetsockopt_slow s c sockfd opt)
  | request c req => exact h.still (appRequest_slow s c _)
  | pollSlow c =>
    refine h.quiet ?_
    dsimp only [udpAppStep, udpPollSlow]
    split
    · exact h.fit.step _
    · exact h.fit.step _
    · exact h.fit
  | pollApp c env =>
    dsimp only [udpAppStep]
    unfold pollApp
    cases (s.appSlowQs c).head? with
    | none => exact h.quiet h.fit
    | some req =>
      refine ⟨h.fit.step _, fun t ht => ?_⟩
      rcases List.mem_append.mp ht with hold | hnew
      · exact h.handled t hold
      · cases List.mem_singleton.mp hnew
        exact ⟨h.fit, env, rfl⟩
  | fast act => exact h.quiet (h.fit.step act)

theorem UdpAppInit.inv (h : UdpAppInit s) : HandledInv [] s := by
  refine ⟨?_, fun _ ht => absurd ht List.not_mem_nil⟩
  obtain ⟨m, nFpCores, localIp, actxs, hs⟩ := h.slow
  unfold SocksFit
  rw [hs]
  exact UInt32.le_iff_toNat_le.mpr (Nat.zero_le _)

/-- **`udp_setsockopt` does what it has to exactly when** there is room for
the response, the id it sends was given out, and, for the flag to be set, the
descriptor it sends is the id of its own socket, or the flag was set. -/
theorem udp_setsockopt_iff {s₀ : UdpAppSys} (h : UdpAppInit s₀)
    (hrun : Run UdpAppOk (udpAppStep appOf) s₀ log s) {t : Handled} (ht : some t ∈ log)
    {opt : UInt8} {sockId : UInt32} {opaquePtr : UInt64}
    (hreq : t.req.req = .setoptReq opt sockId opaquePtr) :
    SetoptRight appOf t sockId opaquePtr ↔ SetoptServed appOf t opt sockId := by
  have hok := (hrun.inv h.inv fun _ _ act hinv _ => hinv.step act).handled t ht
  obtain ⟨env, hafter⟩ := hok.after
  rw [hreq] at hafter
  have hslow : t.after.slow =
      handleSockSetopt t.before.slow t.ctx sockId opt opaquePtr env.old :=
    congrArg UdpAppSys.slow hafter
  constructor
  · intro hright
    obtain ⟨ok, hitems, hfails⟩ := hright.one
    rw [hslow] at hitems
    -- a response came, so there was room; it is the first one, of success
    cases hroom : (t.before.slow.actxs t.ctx).slowAppQ.hasRoom with
    | false =>
      rw [handleSockSetopt_full hroom] at hitems
      exact absurd (List.self_eq_append_right.mp hitems) (List.cons_ne_nil _ _)
    | true =>
      obtain ⟨l, hfirst, -⟩ := handleSockSetopt_first sockId opt opaquePtr env.old hroom
      rw [hfirst] at hitems
      have hcons := List.append_cancel_left hitems
      have htrue : ok = true := by
        injection hcons with hhead _
        injection hhead with hbool _
        exact hbool.symm
      have hgiven : sockId < t.before.slow.nSocks := by
        refine UInt32.not_le.mp fun hge => ?_
        rw [hfails hge] at htrue
        cases htrue
      refine ⟨hroom, hgiven, fun hopt => ?_⟩
      have hsock := handleSockSetopt_socks sockId opt opaquePtr env.old hroom
        sockId.toNat
      rw [if_pos ⟨hopt, rfl⟩, ← hslow] at hsock
      rcases hright.socks sockId.toNat with hsame | ⟨-, hown, -⟩
      · rw [hsock] at hsame
        exact .inr (congrArg UdpSock.reuport hsame).symm
      · obtain ⟨id, hid, he⟩ := Option.map_eq_some_iff.mp hown
        rw [hid, UInt32.toNat_inj.mp he]
        exact .inl rfl
  · intro hserved
    have hle : sockId ≤ maxSockets :=
      UInt32.le_trans (UInt32.le_of_lt hserved.given) hok.fit
    obtain ⟨l, hfirst, hone⟩ := handleSockSetopt_first sockId opt opaquePtr env.old
      hserved.room
    rw [hone hle] at hfirst
    refine ⟨⟨true, by rw [hslow]; exact hfirst, ?_⟩, fun c hc => ?_, ⟨?_, ?_⟩, fun i => ?_⟩
    · exact fun hge => absurd hserved.given (UInt32.not_lt.mpr hge)
    · rw [hslow]
      exact handleSockSetopt_others hc
    · rw [hslow]
      exact handleSockSetopt_nSocks _ _ _ _ _ _
    · rw [hslow]
      exact handleSockSetopt_rest
    · rw [hslow, handleSockSetopt_socks _ _ _ _ hserved.room]
      by_cases hwrite : opt = soReuseport ∧ i = sockId.toNat
      · rw [if_pos hwrite, hwrite.2]
        rcases hserved.own hwrite.1 with hown | hset
        · refine .inr ⟨hserved.given, ?_, true, rfl⟩
          rw [hown]
          rfl
        · left
          rw [← hset]
      · rw [if_neg hwrite]
        exact .inl rfl

end runs

/-! ## One application, and two -/

/-- No socket and no descriptor yet; the queues hold 8 entries. -/
def freshUdpApps : UdpAppSys :=
  { slow := initUdpSlowContext blankMaps 2 7 freshActx
    libs := fun _ => { nextSockfd := 0, socks := fun _ => none }
    appSlowQs := fun _ => { items := [], nelems := 8 } }

theorem freshUdpApps_init : UdpAppInit freshUdpApps :=
  ⟨⟨blankMaps, 2, 7, freshActx, rfl⟩, fun _ => rfl, fun _ _ => rfl⟩

/-- Rings of 64 bytes. -/
def ringEnv : UdpEnv := { rxq := ring64 0, txq := ring64 64, old := (false, 0) }

/-- Context `c` opens a socket. -/
def openSock (c : Nat) : List UdpAppAct := [.socket c, .pollApp c ringEnv, .pollSlow c]

/-- Context `c` sets `SO_REUSEPORT` on its first socket. -/
def reuseFirst (c : Nat) : List UdpAppAct := [.setsockopt c 0 soReuseport, .pollApp c ringEnv]

/-- The first application's first descriptor is the first socket. -/
theorem udp_setsockopt_first :
    ∃ log s t, Run UdpAppOk (udpAppStep id) freshUdpApps log s ∧ some t ∈ log ∧
      t.req.req = .setoptReq soReuseport 0 0 ∧ SetoptRight id t 0 0 := by
  have hrun := Run.execOk (openSock 0 ++ reuseFirst 0)
    (Run.nil : Run UdpAppOk (udpAppStep id) freshUdpApps [] _) (by decide)
  have hmem : ∃ t, some t ∈
      (execAll (udpAppStep id) (openSock 0 ++ reuseFirst 0) freshUdpApps).1 ∧
      t.req.req = .setoptReq soReuseport 0 0 ∧ SetoptServed id t soReuseport 0 :=
    ⟨_, List.mem_of_getElem? (i := 4) rfl, rfl, by decide, by decide, fun _ => .inl rfl⟩
  obtain ⟨t, ht, hreq, hserved⟩ := hmem
  exact ⟨_, _, t, hrun, ht, hreq, (udp_setsockopt_iff freshUdpApps_init hrun ht hreq).mpr hserved⟩

/-- The second application sets the flag of the first one's socket. -/
theorem udp_setsockopt_wrong :
    ∃ s₀ log s t, UdpAppInit s₀ ∧ Run UdpAppOk (udpAppStep id) s₀ log s ∧ some t ∈ log ∧
      t.req.req = .setoptReq soReuseport 0 0 ∧ t.belongs id 0 = some 1 ∧
      (t.before.slow.maps.socks 0).reuport = false ∧
      (t.after.slow.maps.socks 0).reuport = true ∧ ¬SetoptRight id t 0 0 := by
  have hrun := Run.execOk (openSock 0 ++ openSock 1 ++ reuseFirst 1)
    (Run.nil : Run UdpAppOk (udpAppStep id) freshUdpApps [] _) (by decide)
  have hmem : ∃ t, some t ∈
      (execAll (udpAppStep id) (openSock 0 ++ openSock 1 ++ reuseFirst 1) freshUdpApps).1 ∧
      t.req.req = .setoptReq soReuseport 0 0 ∧ t.belongs id 0 = some 1 ∧
      (t.before.slow.maps.socks 0).reuport = false ∧
      (t.after.slow.maps.socks 0).reuport = true :=
    ⟨_, List.mem_of_getElem? (i := 7) rfl, rfl, rfl, rfl, rfl⟩
  obtain ⟨t, ht, hreq, hown, hbefore, hafter⟩ := hmem
  refine ⟨_, _, _, t, freshUdpApps_init, hrun, ht, hreq, hown, hbefore, hafter, fun h => ?_⟩
  rcases h.socks 0 with hsame | ⟨-, hmine, -⟩
  · rw [hsame, hbefore] at hafter
    cases hafter
  · rw [hown] at hmine
    cases hmine

end Chamelio.Udp
