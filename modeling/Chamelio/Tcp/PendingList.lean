import Chamelio.Tcp.LibClose

/-!
# The pending list over all calls (`protos/tcp/lib/tcp_lib.c`)

`sock_mark_bump` links a socket behind `bump_tail`, `tcp_flush_bumps` cuts
the whole list off and walks over it, and on the way `sock_flush_bumps` may
link a socket just passed into the new list, through the field the walk has
read a moment before. Sockets are closed while they are linked.

`pending_list_in_order` says what the list is in every state the library
gets into (`LibReach`: sends, receives, bumps, flushes, closes and new
sockets in any order, and anything on the queues in between): it runs from
`bump_head` over `bump_next` to `bump_tail` without meeting a socket twice,
it has exactly the marked sockets of the context, and no open socket with
bytes to announce is missing (`PendingOk`). The walk of a flush ends after
one round for each socket of the old list, and both lists are in order at
every round (`FlushWalks`).

`PendingBumps` has the loop invariant and `LibClose` that every call keeps
it; here the loop is counted in rounds instead of the fuel it carries there.
-/

namespace Chamelio.Tcp

open Chamelio.Lib

/-- **The list of a context is in order**, and has the sockets of `fds`. A
`Chain` ends at `TCP_BUMP_NONE` and has no repetition before that. -/
structure PendingOk (lib : TcpLib) (c : Nat) (fds : List Int) : Prop where
  chain : Chain (bumpNextOf lib) tcpBumpNone (lib.ctxs c).bumpHead fds
  nodup : fds.Nodup
  tail : (lib.ctxs c).bumpTail = fds.getLast?.getD tcpBumpNone
  nonneg : ∀ x ∈ fds, 0 ≤ x
  mem : ∀ i : Nat, (i : Int) ∈ fds ↔
    (lib.socks i).ctx = some c ∧ (lib.socks i).bumpPending = true
  waiting : ∀ i : Nat, (lib.socks i).fd = i → (lib.socks i).ctx = some c →
    (lib.socks i).txBumpPending ≠ 0 ∨ (lib.socks i).rxBumpPending ≠ 0 → (i : Int) ∈ fds

/-- The next descriptor and the library before round `n` of the loop of
`tcp_flush_bumps`, and where the loop has ended. -/
def flushWalk (lib : TcpLib) (c : Nat) : Nat → Int × TcpLib
  | 0 =>
    let ctx := lib.ctxs c
    (ctx.bumpHead, lib.setCtx c { ctx with bumpHead := tcpBumpNone, bumpTail := tcpBumpNone })
  | n + 1 =>
    let (cur, lib) := flushWalk lib c n
    if cur = tcpBumpNone then (cur, lib)
    else ((lib.socks cur.toNat).bumpNext, flushRound lib c cur.toNat)

/-- **The walk of a flush**: it ends, after a round for each socket of the
list at most, and before each round the new list and what is left of the old
one are in order. -/
structure FlushWalks (lib : TcpLib) (c : Nat) (fds : List Int) : Prop where
  ends : flushWalk lib c fds.length = (tcpBumpNone, tcpFlushBumps lib c)
  bounded : fds.length ≤ maxSocketsLib
  lists : ∀ n, ∃ again rest, Lists (flushWalk lib c n).2 c (flushWalk lib c n).1 again rest

theorem flushWalk_succ (lib : TcpLib) (c n : Nat) :
    flushWalk lib c (n + 1) =
      if (flushWalk lib c n).1 = tcpBumpNone then flushWalk lib c n
      else (((flushWalk lib c n).2.socks (flushWalk lib c n).1.toNat).bumpNext,
        flushRound (flushWalk lib c n).2 c (flushWalk lib c n).1.toNat) :=
  rfl

section

variable {lib : TcpLib} {n c : Nat} {fds : List Int}

theorem LibInv.pendingOk {s : TcpAppLib} (h : LibInv s) (c : Nat) :
    PendingOk s.lib c (pendingList s.lib c) := by
  have hlists := h.listed c
  have hmem := hlists.mem
  rw [List.append_nil] at hmem
  refine ⟨hlists.pending, by simpa using hlists.nodup, hlists.last, by simpa using hlists.nonneg,
    hmem, fun i hfd hctx hp => ?_⟩
  exact (hmem i).mpr ⟨hctx, BumpInv.marked h i (by simp) hfd hp⟩

/-- **The rounds**: after `n` of them the first `n` sockets of the old list
are off it, and no descriptor was given up. -/
theorem flushWalk_lists (h : Lists lib c tcpBumpNone fds [])
    (hfd : ∀ j : Nat, (lib.socks j).fd = j ∨ (lib.socks j).fd = sockInactive) (n : Nat) :
    (∃ again, Lists (flushWalk lib c n).2 c (flushWalk lib c n).1 again (fds.drop n)) ∧
      ∀ j : Nat, ((flushWalk lib c n).2.socks j).fd = j ∨
        ((flushWalk lib c n).2.socks j).fd = sockInactive := by
  induction n with
  | zero => exact ⟨⟨[], h.cut⟩, hfd⟩
  | succ n ih =>
    obtain ⟨⟨again, hlists⟩, hfds⟩ := ih
    rw [flushWalk_succ]
    cases hdrop : fds.drop n with
    | nil =>
      -- the old list is empty: the loop has ended
      rw [hdrop] at hlists
      rw [if_pos (show _ = tcpBumpNone from hlists.older.seg), ← List.drop_drop, hdrop]
      exact ⟨⟨again, hlists⟩, hfds⟩
    | cons x rest =>
      rw [hdrop] at hlists
      obtain ⟨hcur, hx, -, -⟩ := hlists.take
      have hne : (flushWalk lib c n).1 ≠ tcpBumpNone := by
        rw [hcur]
        unfold tcpBumpNone
        omega
      obtain ⟨hw, again', hlists'⟩ := flushRound_spec hlists hfds
      rw [if_neg hne, hcur, ← List.drop_drop, hdrop]
      refine ⟨⟨again', hlists'⟩, fun j => ?_⟩
      rw [hw.flush.fd j]
      exact hfds j

/-- The loop with enough fuel does the rounds that are left. -/
theorem flushLoop_walk (m : Nat) :
    flushLoop c m (flushWalk lib c n).1 (flushWalk lib c n).2 = (flushWalk lib c (n + m)).2 := by
  induction m generalizing n with
  | zero => rfl
  | succ m ih =>
    have hnext := ih (n := n + 1)
    rw [show n + 1 + m = n + (m + 1) by omega, flushWalk_succ] at hnext
    by_cases hcur : (flushWalk lib c n).1 = tcpBumpNone
    · rw [if_pos hcur, hcur, flushLoop_none] at hnext
      rw [hcur, flushLoop_none]
      exact hnext
    · rw [if_neg hcur] at hnext
      rw [flushLoop_succ hcur]
      exact hnext

theorem tcpFlushBumps_walk (lib : TcpLib) (c : Nat) :
    tcpFlushBumps lib c = (flushWalk lib c maxSocketsLib).2 := by
  have hloop := @flushLoop_walk lib 0 c maxSocketsLib
  rw [Nat.zero_add] at hloop
  unfold tcpFlushBumps
  exact hloop

/-- Rounds behind the end change nothing. -/
theorem flushWalk_ended (hcur : (flushWalk lib c n).1 = tcpBumpNone) (m : Nat) :
    flushWalk lib c (n + m) = flushWalk lib c n := by
  induction m with
  | zero => rfl
  | succ m ih =>
    rw [show n + (m + 1) = n + m + 1 from rfl, flushWalk_succ, ih, if_pos hcur]

theorem Lists.flushWalks (h : Lists lib c tcpBumpNone fds [])
    (hfd : ∀ j : Nat, (lib.socks j).fd = j ∨ (lib.socks j).fd = sockInactive)
    (hlen : fds.length ≤ maxSocketsLib) : FlushWalks lib c fds := by
  obtain ⟨again, hlists⟩ := (flushWalk_lists h hfd fds.length).1
  rw [List.drop_length] at hlists
  have hcur : (flushWalk lib c fds.length).1 = tcpBumpNone := hlists.older.seg
  refine ⟨Prod.ext hcur ?_, hlen, fun n => ?_⟩
  · have hend := flushWalk_ended hcur (maxSocketsLib - fds.length)
    rw [Nat.add_sub_cancel' hlen] at hend
    rw [tcpFlushBumps_walk, hend]
  · obtain ⟨again, hn⟩ := (flushWalk_lists h hfd n).1
    exact ⟨again, _, hn⟩

end

/-- **The pending lists are in order** in every state the library gets into,
and after a flush from there; the flush ends, with both of its lists in order
all the way. -/
theorem pending_list_in_order {s : TcpAppLib} (h : LibReach s) (c : Nat) :
    PendingOk s.lib c (pendingList s.lib c) ∧ FlushWalks s.lib c (pendingList s.lib c) ∧
      ∀ k, PendingOk (tcpFlushBumps s.lib c) k (pendingList (tcpFlushBumps s.lib c) k) := by
  have hinv := h.inv
  have hlists := hinv.listed c
  have hlen := hlists.length_le fun i k hk => (BumpInv.range hinv i k hk).2
  refine ⟨hinv.pendingOk c, hlists.flushWalks (BumpInv.fds hinv) hlen, fun k => ?_⟩
  exact LibInv.pendingOk (hinv.step (.flush c)) k

/-! ## A socket marked again -/

/-- The two sockets connected, with a ring each. -/
def twoConnected : TcpAppLib :=
  { twoSockets with
    lib := { twoSockets.lib with
      socks := fun i =>
        { twoSockets.lib.socks i with
          state := .established, remotePort := 80, txLen := 8, txBuf := UInt64.ofNat (8 * i) } } }

/-- A byte is sent on each; the queue to the fast path has room for the
first. -/
def twoSent : TcpAppLib :=
  let lib := (tcpSendto twoConnected.lib (fun _ => 0) 0 0 [1] none).1
  { twoConnected with lib := (tcpSendto lib (fun _ => 0) 0 1 [2] none).1 }

theorem twoSent_reach : LibReach twoSent := by
  have hrest : LibRest twoSockets twoConnected :=
    ⟨rfl, fun _ => ⟨rfl, rfl⟩, fun _ => ⟨rfl, rfl, rfl⟩, fun _ => ⟨rfl, rfl⟩, fun _ => .inl rfl⟩
  have hconn := twoSockets_reach.step (.rest _ hrest)
  exact (hconn.step (.sendto (fun _ => 0) 0 0 [1] none)).step (.sendto (fun _ => 0) 0 1 [2] none)

/-- The walk over both sockets puts the second on the new list. -/
theorem pending_list_in_order_two :
    PendingOk twoSent.lib 0 (pendingList twoSent.lib 0) ∧
      FlushWalks twoSent.lib 0 (pendingList twoSent.lib 0) ∧
      pendingList twoSent.lib 0 = [0, 1] ∧
      pendingList (tcpFlushBumps twoSent.lib 0) 0 = [1] := by
  obtain ⟨hok, hwalks, -⟩ := pending_list_in_order twoSent_reach 0
  exact ⟨hok, hwalks, rfl, rfl⟩

end Chamelio.Tcp
