import Mathlib.Data.List.Perm.Subperm
import Chamelio.Tcp.PendingBumps

/-!
# Closing a socket in the library (`tcp_close`)

Closing announces what is pending, asks the slow path to close, and retires
the descriptor. It does not look whether the announcement went through, and
a full queue to the slow path is taken for a request that was made: in both
cases the call returns 0 and nothing can be made up for, because the
descriptor is gone.

`LibStep` is what the library does between two calls of `tcp_close`, on any
of its contexts. `LibInv` is the invariant of its pending lists over all of
it: a socket with bytes to announce is on the list of its context.

Mirroring notes:
- Requests to the slow path are pushed by `queue_tail` and `queue_enqueue`,
  which look at the same byte; `queue_enqueue` cannot fail when `queue_tail`
  did not.
- `tcp_socket` and `tcp_accept` take a descriptor by `alloc_lib_sock`, and
  that is all of them that concerns the lists; their requests, the answers of
  the slow path and what the other side takes off the queues are `LibRest`.
- The counter of descriptors is an `int` that every call counts up, a failed
  one too. It is a natural number here, which is right for the first 2^31
  calls of an application; the source does not check the wrap behind them.
-/

namespace Chamelio.Tcp

open Chamelio.Lib

/-- A request to the slow path (`struct tcp_queue_entry` on `app_slow_q`). -/
inductive TcpAppReq
  | newSockReq (opaquePtr : UInt64)
  | setoptReq (sockId : UInt32) (opt : UInt8) (opaquePtr : UInt64)
  | bindReq (sockId : UInt32) (localIp : UInt32) (localPort : UInt16) (opaquePtr : UInt64)
  | connectReq (sockId : UInt32) (remoteIp : UInt32) (remotePort : UInt16) (opaquePtr : UInt64)
  | listenReq (sockId : UInt32) (backlog : UInt32) (opaquePtr : UInt64)
  | acceptReq (sockId : UInt32) (opaquePtr : UInt64)
  | shutdownReq (sockId : UInt32) (how : Nat) (opaquePtr : UInt64)
  | closeReq (sockId : UInt32) (opaquePtr : UInt64)
  deriving DecidableEq

/-- The library with what its calls to the slow path use. -/
structure TcpAppLib where
  lib : TcpLib
  nextSockfd : Nat
  appSlowQ : Nat → Fifo TcpAppReq
  /-- Addresses of the sockets, the `opaque` of a request. -/
  sockPtr : Nat → UInt64

/-- The zeroed socket. -/
def libSockZero : TcpSocketLib :=
  { fd := 0, sockId := 0, ctx := none, core := 0, remotePort := 0, remoteIp := 0
    rxLen := 0, rxAvail := 0, rxHead := 0, rxBuf := 0
    txLen := 0, txAvail := 0, txHead := 0, txBuf := 0
    state := .init, bumpPending := false, bumpNext := 0, txBumpPending := 0, rxBumpPending := 0 }

def allocLibSock (s : TcpAppLib) (c : Nat) : TcpAppLib × Option Nat :=
  let fd := s.nextSockfd
  let s := { s with nextSockfd := fd + 1 }
  if fd ≥ maxSocketsLib then (s, none)
  else
    let sock := { libSockZero with fd, ctx := some c, bumpNext := tcpBumpNone, state := .init }
    ({ s with lib := s.lib.setSock fd sock }, some fd)

def tcpClose (s : TcpAppLib) (c : Nat) (sockfd : Int) : TcpAppLib × Int :=
  match lookupSock s.lib c sockfd with
  | none => (s, -1)
  | some i =>
    let lib := tcpFlushBumps s.lib c
    let sock := lib.socks i
    -- without room at the tail the request is left out
    let q := ((s.appSlowQ c).push (.closeReq sock.sockId (s.sockPtr i))).getD (s.appSlowQ c)
    ({ s with
        lib := lib.setSock i { sock with state := .closed, fd := sockInactive }
        appSlowQ := fun k => if k = c then q else s.appSlowQ k }, 0)

/-! ## The steps of the library -/

/-- Steps that leave the pending lists alone: requests and answers other than
bumps, and what the other side does to the queues. A socket may be given up. -/
structure LibRest (s s' : TcpAppLib) : Prop where
  nextSockfd : s'.nextSockfd = s.nextSockfd
  ends : ∀ c, (s'.lib.ctxs c).bumpHead = (s.lib.ctxs c).bumpHead ∧
    (s'.lib.ctxs c).bumpTail = (s.lib.ctxs c).bumpTail
  links : ∀ i, (s'.lib.socks i).bumpNext = (s.lib.socks i).bumpNext ∧
    (s'.lib.socks i).bumpPending = (s.lib.socks i).bumpPending ∧
    (s'.lib.socks i).ctx = (s.lib.socks i).ctx
  counts : ∀ i, (s'.lib.socks i).txBumpPending = (s.lib.socks i).txBumpPending ∧
    (s'.lib.socks i).rxBumpPending = (s.lib.socks i).rxBumpPending
  fd : ∀ i, (s'.lib.socks i).fd = (s.lib.socks i).fd ∨ (s'.lib.socks i).fd = sockInactive

inductive LibStep (s : TcpAppLib) : TcpAppLib → Prop
  | alloc (c : Nat) : LibStep s (allocLibSock s c).1
  | sendto (shm : Nat → UInt8) (c : Nat) (sockfd : Int) (buf : List UInt8)
      (addr : Option SockAddr) :
      LibStep s { s with lib := (tcpSendto s.lib shm c sockfd buf addr).1 }
  | recvfrom (shm : Nat → UInt8) (c : Nat) (sockfd : Int) (len : Nat) (addrOk : Bool) :
      LibStep s { s with lib := (tcpRecvfrom s.lib shm c sockfd len addrOk).1 }
  | bump (e : TcpQe) (lib : TcpLib) (h : libHandleEntry s.lib e = some lib) :
      LibStep s { s with lib }
  | flush (c : Nat) : LibStep s { s with lib := tcpFlushBumps s.lib c }
  | close (c : Nat) (sockfd : Int) : LibStep s (tcpClose s c sockfd).1
  | rest (s' : TcpAppLib) (h : LibRest s s') : LibStep s s'

/-- The library just connected: no socket, no pending list. -/
structure TcpAppLib.Init (s : TcpAppLib) : Prop where
  nextSockfd : s.nextSockfd = 0
  socks : ∀ i, s.lib.socks i = { libSockZero with fd := sockInactive }
  ends : ∀ c, (s.lib.ctxs c).bumpHead = tcpBumpNone ∧ (s.lib.ctxs c).bumpTail = tcpBumpNone

/-- States the library gets into. -/
inductive LibReach : TcpAppLib → Prop
  | init {s : TcpAppLib} (h : s.Init) : LibReach s
  | step {s s' : TcpAppLib} (h : LibReach s) (hstep : LibStep s s') : LibReach s'

/-! ## The pending lists over all steps -/

/-- The pending lists are in order, and hold every socket with something to
announce other than `off`; only the first `n` descriptors were taken. -/
structure BumpInv (lib : TcpLib) (n : Nat) (off : Option Nat) : Prop where
  lists : ∀ c, ∃ fds, Lists lib c tcpBumpNone fds []
  fds : ∀ i : Nat, (lib.socks i).fd = i ∨ (lib.socks i).fd = sockInactive
  range : ∀ i c, (lib.socks i).ctx = some c → i < n ∧ i < maxSocketsLib
  marked : ∀ i : Nat, some i ≠ off → (lib.socks i).fd = i →
    (lib.socks i).txBumpPending ≠ 0 ∨ (lib.socks i).rxBumpPending ≠ 0 →
    (lib.socks i).bumpPending = true

section

variable {lib lib' : TcpLib} {n c i : Nat} {off : Option Nat}

/-- A flush of one context leaves the lists of the others alone. -/
theorem Lists.foreign {k : Nat} {cur : Int} {again rest : List Int}
    (h : Lists lib k cur again rest) (hflush : FlushOf c lib lib') (hk : k ≠ c) :
    Lists lib' k cur again rest := by
  have hsame : ∀ j, (lib.socks j).ctx = some k → lib'.socks j = lib.socks j := by
    intro j hj
    refine hflush.foreign j ?_
    rw [hj]
    intro he
    exact hk (Option.some_inj.mp he)
  have hnext : ∀ x ∈ again ++ rest, bumpNextOf lib' x = bumpNextOf lib x := by
    intro x hx
    unfold bumpNextOf
    rw [hsame x.toNat]
    exact ((h.mem x.toNat).mp (by rw [Int.toNat_of_nonneg (h.nonneg x hx)]; exact hx)).1
  refine ⟨?_, ?_, ?_, h.nodup, fun j => ?_, h.nonneg⟩
  · rw [hflush.ctxs k hk]
    exact chain_congr (fun x hx => hnext x (List.mem_append_left _ hx)) h.pending
  · rw [hflush.ctxs k hk]
    exact h.last
  · exact chain_congr (fun x hx => hnext x (List.mem_append_right _ hx)) h.older
  · rw [h.mem j, hflush.ctx j]
    by_cases hj : (lib.socks j).ctx = some k
    · rw [hsame j hj]
    · simp [hj]

theorem BumpInv.mono {m : Nat} (h : BumpInv lib n off) (hm : n ≤ m) : BumpInv lib m off :=
  ⟨h.lists, h.fds, fun i k hk => ⟨Nat.lt_of_lt_of_le (h.range i k hk).1 hm, (h.range i k hk).2⟩,
    h.marked⟩

/-- What a flush of context `c` has to show to keep the invariant. -/
theorem BumpInv.flushed {off' : Option Nat} (h : BumpInv lib n off) (hflush : FlushOf c lib lib')
    (hlists : ∃ fds, Lists lib' c tcpBumpNone fds [])
    (hmarked : ∀ i : Nat, some i ≠ off' → (lib.socks i).fd = i →
      (lib'.socks i).txBumpPending ≠ 0 ∨ (lib'.socks i).rxBumpPending ≠ 0 →
      (lib'.socks i).bumpPending = true) : BumpInv lib' n off' := by
  refine ⟨fun k => ?_, fun j => ?_, fun j k hj => ?_, fun j hj hfd => ?_⟩
  · by_cases hk : k = c
    · rw [hk]
      exact hlists
    · obtain ⟨fds, hfds⟩ := h.lists k
      exact ⟨fds, hfds.foreign hflush hk⟩
  · rw [hflush.fd j]
    exact h.fds j
  · rw [hflush.ctx j] at hj
    exact h.range j k hj
  · rw [hflush.fd j] at hfd
    exact hmarked j hj hfd

/-- Editing a socket, not its links; its counters only when it is excepted. -/
theorem BumpInv.edit {s : TcpSocketLib} (h : BumpInv lib n none)
    (hlinks : s.bumpNext = (lib.socks i).bumpNext ∧ s.bumpPending = (lib.socks i).bumpPending ∧
      s.ctx = (lib.socks i).ctx)
    (hfd : s.fd = (lib.socks i).fd ∨ s.fd = sockInactive)
    (hcounts : off = some i ∨ s.txBumpPending = (lib.socks i).txBumpPending ∧
      s.rxBumpPending = (lib.socks i).rxBumpPending) : BumpInv (lib.setSock i s) n off := by
  have hcases : ∀ j, j = i ∧ (lib.setSock i s).socks j = s ∨
      j ≠ i ∧ (lib.setSock i s).socks j = lib.socks j := by
    intro j
    by_cases hji : j = i
    · exact .inl ⟨hji, by rw [hji, TcpLib.setSock_socks]⟩
    · exact .inr ⟨hji, TcpLib.setSock_socks_ne _ _ hji⟩
  refine ⟨fun k => ?_, fun j => ?_, fun j k hj => ?_, fun j hj hfdj hp => ?_⟩
  · obtain ⟨fds, hfds⟩ := h.lists k
    refine ⟨fds, hfds.congr ⟨rfl, rfl⟩ fun j => ?_⟩
    rcases hcases j with ⟨rfl, he⟩ | ⟨-, he⟩
    · rw [he]
      exact hlinks
    · rw [he]
      exact ⟨rfl, rfl, rfl⟩
  · rcases hcases j with ⟨rfl, he⟩ | ⟨-, he⟩
    · rw [he]
      rcases hfd with hfd | hfd
      · rw [hfd]
        exact h.fds j
      · exact .inr hfd
    · rw [he]
      exact h.fds j
  · rcases hcases j with ⟨rfl, he⟩ | ⟨-, he⟩
    · rw [he, hlinks.2.2] at hj
      exact h.range j k hj
    · rw [he] at hj
      exact h.range j k hj
  · rcases hcases j with ⟨rfl, he⟩ | ⟨-, he⟩
    · rw [he] at hfdj hp ⊢
      rcases hcounts with hoff | ⟨htx, hrx⟩
      · exact absurd hoff.symm hj
      · rw [hlinks.2.1]
        rw [htx, hrx] at hp
        refine h.marked j (by simp) ?_ hp
        rcases hfd with hfd | hfd
        · rw [← hfd, hfdj]
        · rw [hfdj] at hfd
          unfold sockInactive at hfd
          omega
    · rw [he] at hfdj hp ⊢
      exact h.marked j (by simp) hfdj hp

/-- Marking the socket that was excepted. -/
theorem BumpInv.mark (h : BumpInv lib n (some i)) (hctx : (lib.socks i).ctx = some c)
    (hfd : (lib.socks i).fd = i) : BumpInv (sockMarkBump lib c i) n none := by
  obtain ⟨fds, hfds⟩ := h.lists c
  obtain ⟨hflush, hsame, hmark, hlists⟩ := sockMarkBump_spec hfds hctx hfd
  refine h.flushed hflush hlists fun j _ hfdj hp => ?_
  by_cases hji : j = i
  · rw [hji]
    exact hmark
  · rw [hsame.tx j, hsame.rx j] at hp
    exact hsame.marked j (h.marked j (by simp [hji]) hfdj hp)

/-- **`sock_flush_bumps`** keeps the lists in order. -/
theorem BumpInv.flushSock (h : BumpInv lib n none) : BumpInv (sockFlushBumps lib c i) n none := by
  by_cases hactive : (lib.socks i).ctx ≠ some c ∨ (lib.socks i).fd = sockInactive
  · unfold sockFlushBumps
    dsimp only
    rw [if_pos hactive]
    exact h
  · rw [not_or, ne_eq, Decidable.not_not] at hactive
    obtain ⟨fds, hfds⟩ := h.lists c
    obtain ⟨hv, hlists⟩ := sockFlushBumps_spec hfds hactive.1 ((h.fds i).resolve_right hactive.2)
    refine h.flushed hv.flush hlists fun j _ hfdj hp => ?_
    by_cases hji : j = i
    · rw [hji] at hp ⊢
      exact hv.pending hp
    · rw [(hv.other j hji).1, (hv.other j hji).2] at hp
      exact hv.marked j (h.marked j (by simp) hfdj hp)

/-- Nothing is on a list twice, so the fuel of the loop is enough. -/
theorem Lists.length_le {fds : List Int} (h : Lists lib c tcpBumpNone fds [])
    (hrange : ∀ i k, (lib.socks i).ctx = some k → i < maxSocketsLib) :
    fds.length ≤ maxSocketsLib := by
  have hsub : fds ⊆ (List.range maxSocketsLib).map fun i : Nat => (i : Int) := by
    intro x hx
    have hx' : x ∈ fds ++ [] := by simpa using hx
    have hx0 := h.nonneg x hx'
    have hmem := (h.mem x.toNat).mp (by rw [Int.toNat_of_nonneg hx0]; exact hx')
    refine List.mem_map.mpr ⟨x.toNat, ?_, Int.toNat_of_nonneg hx0⟩
    exact List.mem_range.mpr (hrange _ c hmem.1)
  have hnodup : fds.Nodup := by simpa using h.nodup
  have hlen := (hnodup.subperm hsub).length_le
  simpa using hlen

/-- **`tcp_flush_bumps`** walks over the pending list. -/
theorem tcpFlushBumps_walked {fds : List Int} (h : Lists lib c tcpBumpNone fds [])
    (hinv : BumpInv lib n none) :
    Walked c fds lib (tcpFlushBumps lib c) ∧
      ∃ fds', Lists (tcpFlushBumps lib c) c tcpBumpNone fds' [] := by
  unfold tcpFlushBumps
  dsimp only
  obtain ⟨hw, hlists⟩ := flushLoop_walked h.cut
    (h.length_le fun i k hk => (hinv.range i k hk).2) hinv.fds
  refine ⟨?_, hlists⟩
  have hset : FlushOf c lib (lib.setCtx c
      { lib.ctxs c with bumpHead := tcpBumpNone, bumpTail := tcpBumpNone }) := flushOf_setCtx rfl
  have hroom : ∀ core, fastRoom (lib.setCtx c
      { lib.ctxs c with bumpHead := tcpBumpNone, bumpTail := tcpBumpNone }) c core =
      fastRoom lib c core := by
    intro core
    unfold fastRoom
    rw [TcpLib.setCtx_ctxs]
  refine ⟨hset.trans hw.flush, hw.other, fun core => ?_, fun before j after hsplit hfd => ?_,
    hw.sent, hw.pending⟩
  · rw [hw.room core, hroom]
    rfl
  · have htx := hw.tx before j after hsplit hfd
    rw [hroom] at htx
    exact htx

theorem BumpInv.flushAll (h : BumpInv lib n none) : BumpInv (tcpFlushBumps lib c) n none := by
  obtain ⟨fds, hfds⟩ := h.lists c
  obtain ⟨hw, hlists⟩ := tcpFlushBumps_walked hfds h
  refine h.flushed hw.flush hlists fun j _ hfdj hp => ?_
  by_cases hj : (j : Int) ∈ fds
  · exact hw.pending j hj hfdj hp
  · obtain ⟨htx, hrx, hmark⟩ := hw.other j hj
    rw [htx, hrx] at hp
    exact hmark (h.marked j (by simp) hfdj hp)

/-- A descriptor found is a live socket of the context. -/
theorem lookupSock_some {sockfd : Int} (h : lookupSock lib c sockfd = some i) :
    (lib.socks i).fd = i ∧ (lib.socks i).ctx = some c := by
  unfold lookupSock at h
  split at h
  · cases h
  · next hrange =>
    dsimp only at h
    split at h
    · cases h
    · next hlive =>
      cases h
      simp only [not_or, ne_eq, Decidable.not_not] at hlive
      rw [not_or, Int.not_lt] at hrange
      exact ⟨by rw [hlive.1, Int.toNat_of_nonneg hrange.1], hlive.2.1⟩

/-- An edit that raises the counters, the mark, and a flush or none. -/
theorem BumpInv.editMark {s : TcpSocketLib} (h : BumpInv lib n none) (hctx : (lib.socks i).ctx = some c)
    (hfd : (lib.socks i).fd = i)
    (hlinks : s.bumpNext = (lib.socks i).bumpNext ∧ s.bumpPending = (lib.socks i).bumpPending ∧
      s.ctx = (lib.socks i).ctx) (hsfd : s.fd = (lib.socks i).fd) :
    BumpInv (sockMarkBump (lib.setSock i s) c i) n none := by
  refine (h.edit hlinks (.inl hsfd) (.inl rfl)).mark ?_ ?_
  · rw [TcpLib.setSock_socks, hlinks.2.2, hctx]
  · rw [TcpLib.setSock_socks, hsfd, hfd]

theorem BumpInv.sendto (h : BumpInv lib n none) (shm : Nat → UInt8) (sockfd : Int)
    (buf : List UInt8) (addr : Option SockAddr) :
    BumpInv (tcpSendto lib shm c sockfd buf addr).1 n none := by
  unfold tcpSendto
  split
  · exact h
  · next i hi =>
    obtain ⟨hfd, hctx⟩ := lookupSock_some hi
    dsimp only
    split
    · exact h
    · split
      · exact h
      · split
        · exact h
        · split
          · exact h
          · have hmark := fun ip port len =>
              @BumpInv.editMark lib n c i (libAppendTx (lib.socks i) ip port len) h hctx hfd
                ⟨rfl, rfl, rfl⟩ rfl
            dsimp only
            split
            · exact (hmark _ _ _).flushSock
            · exact hmark _ _ _

theorem BumpInv.recvfrom (h : BumpInv lib n none) (shm : Nat → UInt8) (sockfd : Int) (len : Nat)
    (addrOk : Bool) : BumpInv (tcpRecvfrom lib shm c sockfd len addrOk).1 n none := by
  unfold tcpRecvfrom
  split
  · exact h
  · next i hi =>
    obtain ⟨hfd, hctx⟩ := lookupSock_some hi
    dsimp only
    split
    · exact h
    · split
      · exact h
      · split
        · exact h
        · split
          · exact h
          · have hmark := fun len =>
              @BumpInv.editMark lib n c i (libConsumeRx (lib.socks i) len) h hctx hfd
                ⟨rfl, rfl, rfl⟩ rfl
            dsimp only
            split
            · exact (hmark _).flushSock
            · exact hmark _

theorem BumpInv.entry (h : BumpInv lib n none) {e : TcpQe} (he : libHandleEntry lib e = some lib') :
    BumpInv lib' n none := by
  have hedit : ∀ (i : Nat) (s : TcpSocketLib), s.bumpNext = (lib.socks i).bumpNext ∧
      s.bumpPending = (lib.socks i).bumpPending ∧ s.ctx = (lib.socks i).ctx →
      s.fd = (lib.socks i).fd → s.txBumpPending = (lib.socks i).txBumpPending ∧
      s.rxBumpPending = (lib.socks i).rxBumpPending → BumpInv (lib.setSock i s) n none :=
    fun i s hlinks hfd hcounts => h.edit hlinks (.inl hfd) (.inr hcounts)
  cases e with
  | bumpAppTx opaquePtr txHead =>
    cases he
    unfold handleTxBump
    split
    · exact h
    · next i _ =>
      dsimp only
      have hi := fun bump => hedit i (libReleaseTx (lib.socks i) bump) ⟨rfl, rfl, rfl⟩ rfl ⟨rfl, rfl⟩
      generalize (if txHead > (lib.socks i).txAvail then (lib.socks i).txAvail else txHead) = bump
      split
      · exact h
      · split
        · exact h
        · split
          · split
            · exact (hi _).flushSock
            · exact hi _
          · exact hi _
  | bumpAppRx opaquePtr rxPort rxIp rxAvail =>
    cases he
    unfold handleRxBump
    split
    · exact h
    · next i _ =>
      dsimp only
      generalize (if rxAvail > (lib.socks i).rxLen - (lib.socks i).rxAvail then
        (lib.socks i).rxLen - (lib.socks i).rxAvail else rxAvail) = bump
      split
      · exact h
      · split
        · exact h
        · exact hedit i (libAnnounceRx (lib.socks i) rxPort rxIp _) ⟨rfl, rfl, rfl⟩ rfl ⟨rfl, rfl⟩
  | _ => cases he

/-- A descriptor that was never used gets a socket with nothing pending. -/
theorem BumpInv.alloc (h : BumpInv lib n none) (hfresh : (lib.socks i).ctx = none)
    (hlt : i < n ∧ i < maxSocketsLib) {s : TcpSocketLib} (hfd : s.fd = i)
    (hoff : s.bumpPending = false) (htx : s.txBumpPending = 0) (hrx : s.rxBumpPending = 0) :
    BumpInv (lib.setSock i s) n none := by
  have hcases : ∀ j, j = i ∧ (lib.setSock i s).socks j = s ∨
      j ≠ i ∧ (lib.setSock i s).socks j = lib.socks j := by
    intro j
    by_cases hji : j = i
    · exact .inl ⟨hji, by rw [hji, TcpLib.setSock_socks]⟩
    · exact .inr ⟨hji, TcpLib.setSock_socks_ne _ _ hji⟩
  refine ⟨fun k => ?_, fun j => ?_, fun j k hj => ?_, fun j _ hfdj hp => ?_⟩
  · obtain ⟨fds, hfds⟩ := h.lists k
    have hno : (i : Int) ∉ fds := by
      intro hm
      have hmem := (hfds.mem i).mp (by simpa using hm)
      rw [hfresh] at hmem
      cases hmem.1
    have hchain : Chain (bumpNextOf (lib.setSock i s)) tcpBumpNone (lib.ctxs k).bumpHead fds := by
      refine chain_congr (fun x hx => ?_) hfds.pending
      rw [bumpNextOf_setSock _ _ _ (hfds.nonneg x (by simpa using hx)), if_neg]
      intro hxi
      exact hno (hxi ▸ hx)
    refine ⟨fds, hchain, hfds.last, ⟨rfl, by simp⟩, hfds.nodup, fun j => ?_, hfds.nonneg⟩
    rcases hcases j with ⟨rfl, he⟩ | ⟨-, he⟩
    · rw [he, hoff]
      simp [hno]
    · rw [he]
      exact hfds.mem j
  · rcases hcases j with ⟨rfl, he⟩ | ⟨-, he⟩
    · rw [he]
      exact .inl hfd
    · rw [he]
      exact h.fds j
  · rcases hcases j with ⟨rfl, he⟩ | ⟨-, he⟩
    · exact hlt
    · rw [he] at hj
      exact h.range j k hj
  · rcases hcases j with ⟨rfl, he⟩ | ⟨-, he⟩
    · rw [he, htx, hrx] at hp
      simp at hp
    · rw [he] at hfdj hp ⊢
      exact h.marked j (by simp) hfdj hp

end

/-- What holds of every state the library gets into. -/
def LibInv (s : TcpAppLib) : Prop := BumpInv s.lib s.nextSockfd none

theorem TcpAppLib.Init.inv {s : TcpAppLib} (h : s.Init) : LibInv s := by
  refine ⟨fun c => ⟨[], ?_⟩, fun i => ?_, fun i c hc => ?_, fun i _ hfd => ?_⟩
  · refine ⟨⟨(h.ends c).1, by simp⟩, (h.ends c).2, ⟨rfl, by simp⟩, by simp, fun i => ?_, by simp⟩
    simp [h.socks i, libSockZero]
  · right
    rw [h.socks i]
  · rw [h.socks i] at hc
    cases hc
  · rw [h.socks i] at hfd
    change (-1 : Int) = i at hfd
    omega

/-- **One step** of the library keeps the invariant. -/
theorem LibInv.step {s s' : TcpAppLib} (h : LibInv s) (hstep : LibStep s s') : LibInv s' := by
  cases hstep with
  | alloc c =>
    unfold allocLibSock
    dsimp only
    split
    · exact h.mono (Nat.le_succ _)
    · next hlt =>
      have hfresh : (s.lib.socks s.nextSockfd).ctx = none := by
        cases hctx : (s.lib.socks s.nextSockfd).ctx with
        | none => rfl
        | some k => exact absurd (h.range _ k hctx).1 (Nat.lt_irrefl _)
      exact (h.mono (Nat.le_succ _)).alloc hfresh ⟨Nat.lt_succ_self _, Nat.lt_of_not_le hlt⟩
        rfl rfl rfl rfl
  | sendto shm c sockfd buf addr => exact BumpInv.sendto h shm sockfd buf addr
  | recvfrom shm c sockfd len addrOk => exact BumpInv.recvfrom h shm sockfd len addrOk
  | bump e lib he => exact BumpInv.entry h he
  | flush c => exact BumpInv.flushAll h
  | close c sockfd =>
    unfold tcpClose
    split
    · exact h
    · exact (BumpInv.flushAll h).edit ⟨rfl, rfl, rfl⟩ (.inr rfl) (.inr ⟨rfl, rfl⟩)
  | rest s' hrest =>
    refine ⟨fun c => ?_, fun i => ?_, fun i c hc => ?_, fun i _ hfd hp => ?_⟩
    · obtain ⟨fds, hfds⟩ := h.lists c
      exact ⟨fds, hfds.congr (hrest.ends c) hrest.links⟩
    · rcases hrest.fd i with hfd | hfd
      · rw [hfd]
        exact h.fds i
      · exact .inr hfd
    · rw [(hrest.links i).2.2] at hc
      rw [hrest.nextSockfd]
      exact h.range i c hc
    · rw [(hrest.counts i).1, (hrest.counts i).2] at hp
      rw [(hrest.links i).2.1]
      refine h.marked i (by simp) ?_ hp
      rcases hrest.fd i with hfd' | hfd'
      · rw [← hfd', hfd]
      · rw [hfd'] at hfd
        unfold sockInactive at hfd
        omega

/-- **Every state** the library gets into has its pending lists in order. -/
theorem LibReach.inv {s : TcpAppLib} (h : LibReach s) : LibInv s := by
  induction h with
  | init h => exact h.inv
  | step _ hstep ih => exact ih.step hstep

/-! ## When a close is requested -/

/-- The descriptors on the list from `fd` on. -/
def listedFrom (lib : TcpLib) : Nat → Int → List Int
  | 0, _ => []
  | n + 1, fd => if fd = tcpBumpNone then [] else fd :: listedFrom lib n (bumpNextOf lib fd)

/-- The pending list of a context. -/
def pendingList (lib : TcpLib) (c : Nat) : List Int :=
  listedFrom lib maxSocketsLib (lib.ctxs c).bumpHead

theorem listedFrom_of_chain {lib : TcpLib} {fds : List Int} {fd : Int} {n : Nat}
    (h : Chain (bumpNextOf lib) tcpBumpNone fd fds) (hn : fds.length ≤ n) :
    listedFrom lib n fd = fds := by
  induction fds generalizing fd n with
  | nil =>
    cases n with
    | zero => rfl
    | succ n =>
      unfold listedFrom
      exact if_pos h.seg
  | cons x fds ih =>
    cases n with
    | zero => simp at hn
    | succ n =>
      have hfd : fd = x := h.seg.1
      have hne : fd ≠ tcpBumpNone := by
        rw [hfd]
        exact h.ne x (by simp)
      unfold listedFrom
      rw [if_neg hne, hfd, ih (chain_tail h) (by simpa using hn)]

theorem LibInv.listed {s : TcpAppLib} (h : LibInv s) (c : Nat) :
    Lists s.lib c tcpBumpNone (pendingList s.lib c) [] := by
  obtain ⟨fds, hfds⟩ := BumpInv.lists h c
  have hlen := hfds.length_le fun i k hk => (BumpInv.range h i k hk).2
  have heq : pendingList s.lib c = fds := listedFrom_of_chain hfds.pending hlen
  rw [heq]
  exact hfds

private theorem split_at {l : List Int} {x : Int} (h : x ∈ l) :
    ∃ after, l = (l.takeWhile fun y => decide (y ≠ x)) ++ x :: after := by
  induction l with
  | nil => cases h
  | cons y l ih =>
    by_cases hy : y = x
    · exact ⟨l, by simp [hy]⟩
    · obtain ⟨after, hafter⟩ := ih ((List.mem_cons.mp h).resolve_left (Ne.symm hy))
      refine ⟨after, ?_⟩
      rw [List.takeWhile_cons_of_pos (by simp [hy]), List.cons_append, ← hafter]

/-- The bytes of socket `i` get onto the queue of its core: nothing is
pending, or there is more room than the sockets before it on the list need. -/
def TxFits (lib : TcpLib) (c i : Nat) : Prop :=
  (lib.socks i).txBumpPending = 0 ∨
    needed lib (lib.socks i).core.toNat
        ((pendingList lib c).takeWhile fun fd => decide (fd ≠ (i : Int))) <
      fastRoom lib c (lib.socks i).core.toNat

/-- **When a close is what it says**: there is no such socket, or its bytes
get onto the queue to the fast path and the request onto that to the slow
path. -/
def CloseFits (s : TcpAppLib) (c : Nat) (sockfd : Int) : Prop :=
  ∀ i, lookupSock s.lib c sockfd = some i → TxFits s.lib c i ∧ (s.appSlowQ c).hasRoom = true

/-- **What a return value should mean**: after 0 every accepted byte is
announced and the slow path is asked to close the socket; after -1 nothing
has changed. -/
def CloseKept (s : TcpAppLib) (c : Nat) (sockfd : Int) : Prop :=
  let r := tcpClose s c sockfd
  (r.2 = 0 → ∃ i, lookupSock s.lib c sockfd = some i ∧
    (r.1.lib.socks i).txBumpPending = 0 ∧
    ((s.lib.socks i).txBumpPending ≠ 0 → txAnnouncement (s.lib.socks i) ∈
      ((r.1.lib.ctxs c).appFastQs (s.lib.socks i).core.toNat).items) ∧
    (r.1.appSlowQ c).items =
      (s.appSlowQ c).items ++ [.closeReq (s.lib.socks i).sockId (s.sockPtr i)]) ∧
  (r.2 = -1 → r.1 = s)

/-- The flush of a close announces a socket's bytes exactly when they fit. -/
theorem LibInv.flushed_iff {s : TcpAppLib} (h : LibInv s) {c i : Nat}
    (hfd : (s.lib.socks i).fd = i) (hctx : (s.lib.socks i).ctx = some c) :
    ((tcpFlushBumps s.lib c).socks i).txBumpPending = 0 ↔ TxFits s.lib c i := by
  have hlists := h.listed c
  have hw := (tcpFlushBumps_walked hlists h).1
  unfold TxFits
  by_cases hm : (i : Int) ∈ pendingList s.lib c
  · -- its place on the list
    obtain ⟨after, hsplit⟩ := split_at hm
    exact hw.tx _ i after hsplit hfd
  · have hzero : (s.lib.socks i).txBumpPending = 0 := by
      refine Classical.byContradiction fun hne => hm ?_
      have hmark := BumpInv.marked h i (by simp) hfd (.inl hne)
      have := (hlists.mem i).mpr ⟨hctx, hmark⟩
      simpa using this
    rw [(hw.other i hm).1, hzero]
    simp

/-- **When `tcp_close` keeps its word**, in every state the library gets
into: exactly when the bytes pending on the socket and the request fit. -/
theorem tcp_close_kept_iff {s : TcpAppLib} (h : LibReach s) (c : Nat) (sockfd : Int) :
    CloseKept s c sockfd ↔ CloseFits s c sockfd := by
  have hinv := h.inv
  unfold CloseKept CloseFits tcpClose
  cases hi : lookupSock s.lib c sockfd with
  | none => simp
  | some i =>
    obtain ⟨hfd, hctx⟩ := lookupSock_some hi
    have hiff := hinv.flushed_iff hfd hctx
    have hw := (tcpFlushBumps_walked (hinv.listed c) hinv).1
    have hid := hw.flush.sockId i
    dsimp only
    constructor
    · intro hkept j hj
      cases hj
      obtain ⟨j, hj, hz, -, hreq⟩ := hkept.1 rfl
      cases hj
      rw [TcpLib.setSock_socks] at hz
      rw [if_pos rfl, hid] at hreq
      refine ⟨hiff.mp hz, Classical.byContradiction fun hfull => ?_⟩
      rw [Fifo.push, if_neg hfull, Option.getD_none] at hreq
      simp at hreq
    · intro hfits
      obtain ⟨htx, hroom⟩ := hfits i rfl
      refine ⟨fun _ => ⟨i, rfl, ?_, fun hne => hw.sent i hne (hiff.mpr htx), ?_⟩,
        fun hneg => by cases hneg⟩
      · rw [TcpLib.setSock_socks]
        exact hiff.mpr htx
      · rw [if_pos rfl, hid, Fifo.push_of_room hroom, Option.getD_some]

/-! ## Two sockets -/

/-- A library just connected, with room for one request and one bump. -/
def freshAppLib : TcpAppLib :=
  { lib :=
      { socks := fun _ => { libSockZero with fd := sockInactive }
        ctxs := fun _ =>
          { appFastQs := fun _ => { items := [], nelems := 1 }
            bumpHead := tcpBumpNone, bumpTail := tcpBumpNone }
        sockAt := fun _ => none }
    nextSockfd := 0, appSlowQ := fun _ => { items := [], nelems := 1 }
    sockPtr := fun i => UInt64.ofNat (4096 + 256 * i) }

/-- Two sockets of the first context; the slow path has dealt with what was
asked for. -/
def twoSockets : TcpAppLib := (allocLibSock (allocLibSock freshAppLib 0).1 0).1

theorem twoSockets_reach : LibReach twoSockets := by
  have hinit : freshAppLib.Init := ⟨rfl, fun _ => rfl, fun _ => ⟨rfl, rfl⟩⟩
  exact .step (.step (.init hinit) (.alloc 0)) (.alloc 0)

/-- The first of the two is connected and has bytes in flight, so that a
`tcp_sendto` of three more leaves these to be announced. -/
def sendingSock : TcpAppLib :=
  { twoSockets with
    lib := twoSockets.lib.setSock 0 { twoSockets.lib.socks 0 with
      state := .established, remotePort := 80, txLen := 64, txAvail := 4 } }

theorem sendingSock_rest : LibRest twoSockets sendingSock := by
  refine ⟨rfl, fun _ => ⟨rfl, rfl⟩, fun i => ?_, fun i => ?_, fun i => .inl ?_⟩
  all_goals
    unfold sendingSock TcpLib.setSock
    dsimp only
    by_cases hi : i = 0
    · simp [hi]
    · simp [hi]

/-- The library with the three bytes on the pending list. -/
def sentSock : TcpAppLib :=
  { sendingSock with lib := (tcpSendto sendingSock.lib (fun _ => 0) 0 0 [1, 2, 3] none).1 }

theorem sentSock_reach : LibReach sentSock :=
  .step (.step twoSockets_reach (.rest sendingSock sendingSock_rest))
    (.sendto (fun _ => 0) 0 0 [1, 2, 3] none)

/-- A close with bytes to announce announces them, and is requested. -/
theorem tcp_close_kept_first :
    (sentSock.lib.socks 0).txBumpPending = 3 ∧ CloseKept sentSock 0 0 := by
  have hfits : CloseFits sentSock 0 0 := by
    intro i hi
    rw [show lookupSock sentSock.lib 0 0 = some 0 from rfl] at hi
    cases hi
    exact ⟨.inr (by decide), rfl⟩
  exact ⟨rfl, (tcp_close_kept_iff sentSock_reach 0 0).mpr hfits⟩

/-- **The second close is not**: the queue to the slow path is full, and the
call returns 0 all the same. -/
theorem tcp_close_not_kept :
    LibReach (tcpClose twoSockets 0 0).1 ∧ (tcpClose (tcpClose twoSockets 0 0).1 0 1).2 = 0 ∧
      ¬ CloseKept (tcpClose twoSockets 0 0).1 0 1 := by
  refine ⟨.step twoSockets_reach (.close 0 0), rfl, fun hkept => ?_⟩
  obtain ⟨i, -, -, -, hreq⟩ := hkept.1 rfl
  have hlen := congrArg List.length hreq
  rw [List.length_append] at hlen
  change 1 = 1 + 1 at hlen
  omega

end Chamelio.Tcp
