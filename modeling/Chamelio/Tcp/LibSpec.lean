import Chamelio.Tcp.AppLib

/-!
# What the library's bookkeeping does

The pending list, the two halves of `sock_flush_bumps` and
`tcp_flush_bumps` only ever move a pending counter of one socket into the
queue to the fast path. `Flushed` says so once; every library call is then
an edit of the socket followed by a `Flushed` step.
-/

namespace Chamelio.Tcp

open Chamelio.Lib

/-! ## Bytes in flight -/

/-- Bytes an entry makes available for transmission. -/
def chamTxAmount : TcpQe → Nat
  | .bumpChamTx _ _ _ txAvail => txAvail.toNat
  | _ => 0

/-- Bytes an entry frees in the fast path's receive ring. -/
def chamRxAmount : TcpQe → Nat
  | .bumpChamRx _ rxHead => rxHead.toNat
  | _ => 0

/-- Bytes an entry releases in the application's transmit ring. -/
def appTxAmount : TcpQe → Nat
  | .bumpAppTx _ txHead => txHead.toNat
  | _ => 0

/-- Bytes an entry announces to the application. -/
def appRxAmount : TcpQe → Nat
  | .bumpAppRx _ _ _ rxAvail => rxAvail.toNat
  | _ => 0

/-! ## One connection -/

/-- What never changes about a connection: its names on both sides and its
two rings in shared memory. -/
structure ConnId where
  sockId : UInt32
  fd : Nat
  ctxId : Nat
  core : UInt16
  opaquePtr : UInt64
  appBumpQid : UInt16
  rxLen : UInt32
  rxOff : UInt64
  txLen : UInt32
  txOff : UInt64
  /-- The rings were allocated apart. -/
  apart : rxOff.toNat + rxLen.toNat ≤ txOff.toNat ∨ txOff.toNat + txLen.toNat ≤ rxOff.toNat

/-- Index of the socket in the fast path's socket map. -/
def ConnId.sid (g : ConnId) : Nat := g.sockId.toNat

/-- The library's entry for the connection. -/
def libSock (g : ConnId) (lib : TcpLib) : TcpSocketLib := lib.socks g.fd

/-- The queue to the fast-path core of the connection. -/
def outQueue (g : ConnId) (lib : TcpLib) : Fifo TcpQe :=
  (lib.ctxs g.ctxId).appFastQs g.core.toNat

/-- The entry without the bookkeeping of bumps. -/
def TcpSocketLib.still (s : TcpSocketLib) : TcpSocketLib :=
  { s with bumpPending := false, bumpNext := tcpBumpNone, txBumpPending := 0, rxBumpPending := 0 }

/-- The library's entry is the connection's, and the pending list of its
context holds this socket or nothing. -/
structure LibOwns (g : ConnId) (lib : TcpLib) : Prop where
  fd : (libSock g lib).fd = g.fd
  ctx : (libSock g lib).ctx = some g.ctxId
  core : (libSock g lib).core = g.core
  sockId : (libSock g lib).sockId = g.sockId
  listed : ((libSock g lib).bumpPending = true ∧ (libSock g lib).bumpNext = tcpBumpNone ∧
      (lib.ctxs g.ctxId).bumpHead = g.fd ∧ (lib.ctxs g.ctxId).bumpTail = g.fd) ∨
    ((libSock g lib).bumpPending = false ∧
      (lib.ctxs g.ctxId).bumpHead = tcpBumpNone ∧ (lib.ctxs g.ctxId).bumpTail = tcpBumpNone)

/-- Entries that carry bumps of this connection to the fast path. -/
def OutMine (g : ConnId) (e : TcpQe) : Prop :=
  (∃ p i a, e = .bumpChamTx g.sockId p i a) ∨ ∃ a, e = .bumpChamRx g.sockId a

/-- Pending counters moved into the queue, and nothing else. -/
structure Flushed (g : ConnId) (lib lib' : TcpLib) : Prop where
  owns : LibOwns g lib'
  sock : (libSock g lib').still = (libSock g lib).still
  tx : (libSock g lib').txBumpPending.toNat + (outQueue g lib').sum chamTxAmount =
    (libSock g lib).txBumpPending.toNat + (outQueue g lib).sum chamTxAmount
  rx : (libSock g lib').rxBumpPending.toNat + (outQueue g lib').sum chamRxAmount =
    (libSock g lib).rxBumpPending.toNat + (outQueue g lib).sum chamRxAmount
  mine : ∀ e ∈ (outQueue g lib').items, e ∈ (outQueue g lib).items ∨ OutMine g e
  sockAt : lib'.sockAt = lib.sockAt

theorem Flushed.refl {g : ConnId} {lib : TcpLib} (h : LibOwns g lib) : Flushed g lib lib :=
  ⟨h, rfl, rfl, rfl, fun _ he => Or.inl he, rfl⟩

theorem Flushed.trans {g : ConnId} {a b c : TcpLib} (h₁ : Flushed g a b) (h₂ : Flushed g b c) :
    Flushed g a c := by
  refine ⟨h₂.owns, h₂.sock.trans h₁.sock, h₂.tx.trans h₁.tx, h₂.rx.trans h₁.rx, ?_,
    h₂.sockAt.trans h₁.sockAt⟩
  intro e he
  rcases h₂.mine e he with he | he
  · exact h₁.mine e he
  · exact Or.inr he

@[simp] theorem libSock_setSock (g : ConnId) (lib : TcpLib) (s : TcpSocketLib) :
    libSock g (lib.setSock g.fd s) = s := TcpLib.setSock_socks lib g.fd s

@[simp] theorem outQueue_setSock (g : ConnId) (lib : TcpLib) (i : Nat) (s : TcpSocketLib) :
    outQueue g (lib.setSock i s) = outQueue g lib := rfl

@[simp] theorem libSock_setCtx (g : ConnId) (lib : TcpLib) (c : Nat) (x : TcpContextLib) :
    libSock g (lib.setCtx c x) = libSock g lib := rfl

theorem fd_ne_none (g : ConnId) : (g.fd : Int) ≠ tcpBumpNone := by
  unfold tcpBumpNone
  omega

/-- Putting the socket on the pending list. -/
theorem sockMarkBump_flushed {g : ConnId} {lib : TcpLib} (h : LibOwns g lib) :
    Flushed g lib (sockMarkBump lib g.ctxId g.fd) := by
  unfold sockMarkBump
  dsimp only
  rcases h.listed with ⟨hp, -⟩ | ⟨hp, hhead, htail⟩
  · have hp' : (lib.socks g.fd).bumpPending = true := hp
    rw [if_pos hp']
    exact Flushed.refl h
  · have hp' : ¬ (lib.socks g.fd).bumpPending = true := by
      intro ht
      exact absurd (hp.symm.trans ht) (by decide)
    rw [if_neg hp', TcpLib.setSock_ctxs, if_pos htail]
    generalize hlib : (lib.setSock g.fd _).setCtx g.ctxId _ = lib₁
    have hsock : libSock g lib₁ =
        { libSock g lib with bumpPending := true, bumpNext := tcpBumpNone } := by
      rw [← hlib, libSock_setCtx, libSock_setSock]
      rfl
    have hctx : lib₁.ctxs g.ctxId =
        { lib.ctxs g.ctxId with bumpHead := g.fd, bumpTail := g.fd } := by
      rw [← hlib, TcpLib.setCtx_ctxs]
      show { lib.ctxs g.ctxId with
        bumpHead := (libSock g lib).fd, bumpTail := (libSock g lib).fd } = _
      rw [h.fd]
    have hq : outQueue g lib₁ = outQueue g lib := by
      unfold outQueue
      rw [hctx]
    have hat : lib₁.sockAt = lib.sockAt := by rw [← hlib]; rfl
    refine ⟨⟨?_, ?_, ?_, ?_, Or.inl ?_⟩, ?_, ?_, ?_, ?_, hat⟩
    · rw [hsock]; exact h.fd
    · rw [hsock]; exact h.ctx
    · rw [hsock]; exact h.core
    · rw [hsock]; exact h.sockId
    · rw [hsock, hctx]; exact ⟨rfl, rfl, rfl, rfl⟩
    · rw [hsock]; rfl
    · rw [hsock, hq]
    · rw [hsock, hq]
    · rw [hq]; exact fun e he => Or.inl he

/-- An entry pushed on the queue to the core. -/
theorem libEnqueue_spec {g : ConnId} {lib lib' : TcpLib} {e : TcpQe}
    (h : libEnqueue lib g.ctxId g.core e = some lib') :
    ∃ q, (outQueue g lib).push e = some q ∧ outQueue g lib' = q ∧ lib'.socks = lib.socks ∧
      lib'.sockAt = lib.sockAt ∧
      (lib'.ctxs g.ctxId).bumpHead = (lib.ctxs g.ctxId).bumpHead ∧
      (lib'.ctxs g.ctxId).bumpTail = (lib.ctxs g.ctxId).bumpTail := by
  unfold libEnqueue at h
  dsimp only at h
  split at h
  · cases h
  · next q hq =>
    cases h
    refine ⟨q, hq, ?_, rfl, rfl, ?_, ?_⟩
    · unfold outQueue
      rw [TcpLib.setCtx_ctxs]
      exact if_pos rfl
    · rw [TcpLib.setCtx_ctxs]
    · rw [TcpLib.setCtx_ctxs]

/-- One half of a flush: the counters `s` of the socket afterwards and the
entry pushed balance. -/
theorem flushed_of_push {g : ConnId} {lib lib₁ : TcpLib} {e : TcpQe} {s : TcpSocketLib}
    (h : LibOwns g lib) (henq : libEnqueue lib g.ctxId g.core e = some lib₁) (he : OutMine g e)
    (hs : s.still = (libSock g lib).still) (hp : s.bumpPending = (libSock g lib).bumpPending)
    (hn : s.bumpNext = (libSock g lib).bumpNext)
    (htx : s.txBumpPending.toNat + chamTxAmount e = (libSock g lib).txBumpPending.toNat)
    (hrx : s.rxBumpPending.toNat + chamRxAmount e = (libSock g lib).rxBumpPending.toNat) :
    Flushed g lib (lib₁.setSock g.fd s) := by
  obtain ⟨q, hpush, hq, -, hat, hhead, htail⟩ := libEnqueue_spec henq
  refine ⟨⟨?_, ?_, ?_, ?_, ?_⟩, ?_, ?_, ?_, ?_, hat⟩
  · rw [libSock_setSock, ← h.fd]
    exact (congrArg TcpSocketLib.fd hs :)
  · rw [libSock_setSock, ← h.ctx]
    exact (congrArg TcpSocketLib.ctx hs :)
  · rw [libSock_setSock, ← h.core]
    exact (congrArg TcpSocketLib.core hs :)
  · rw [libSock_setSock, ← h.sockId]
    exact (congrArg TcpSocketLib.sockId hs :)
  · rw [libSock_setSock, hp, hn, TcpLib.setSock_ctxs, hhead, htail]
    exact h.listed
  · rw [libSock_setSock, hs]
  · rw [libSock_setSock, outQueue_setSock, hq, Fifo.push_sum _ hpush]
    omega
  · rw [libSock_setSock, outQueue_setSock, hq, Fifo.push_sum _ hpush]
    omega
  · rw [outQueue_setSock, hq]
    intro e' he'
    rcases (Fifo.mem_push hpush).mp he' with hold | rfl
    · exact Or.inl hold
    · exact Or.inr he

theorem flushTxBump_flushed {g : ConnId} {lib lib' : TcpLib} (h : LibOwns g lib)
    (hf : flushTxBump lib g.ctxId g.fd = some lib') : Flushed g lib lib' := by
  unfold flushTxBump at hf
  dsimp only at hf
  split at hf
  · cases hf
    exact Flushed.refl h
  · split at hf
    · cases hf
    · next lib₁ henq =>
      cases hf
      have hcore : (lib.socks g.fd).core = g.core := h.core
      have hid : (lib.socks g.fd).sockId = g.sockId := h.sockId
      rw [hcore, hid] at henq
      refine flushed_of_push h henq (Or.inl ⟨_, _, _, rfl⟩) rfl rfl rfl ?_ rfl
      exact Nat.zero_add _

theorem flushRxBump_flushed {g : ConnId} {lib lib' : TcpLib} (h : LibOwns g lib)
    (hf : flushRxBump lib g.ctxId g.fd = some lib') : Flushed g lib lib' := by
  unfold flushRxBump at hf
  dsimp only at hf
  split at hf
  · cases hf
    exact Flushed.refl h
  · split at hf
    · cases hf
    · next lib₁ henq =>
      cases hf
      have hcore : (lib.socks g.fd).core = g.core := h.core
      have hid : (lib.socks g.fd).sockId = g.sockId := h.sockId
      rw [hcore, hid] at henq
      refine flushed_of_push h henq (Or.inr ⟨_, rfl⟩) rfl rfl rfl rfl ?_
      exact Nat.zero_add _

theorem flushOut_flushed {g : ConnId} {lib : TcpLib} (h : LibOwns g lib) :
    Flushed g lib (flushOut lib g.ctxId g.fd) := by
  unfold flushOut
  dsimp only
  split
  · exact sockMarkBump_flushed h
  · exact Flushed.refl h

theorem sockFlushBumps_flushed {g : ConnId} {lib : TcpLib} (h : LibOwns g lib) :
    Flushed g lib (sockFlushBumps lib g.ctxId g.fd) := by
  unfold sockFlushBumps
  dsimp only
  split
  · exact Flushed.refl h
  · split
    · exact flushOut_flushed h
    · next lib₁ htx =>
      have h₁ := flushTxBump_flushed h htx
      split
      · exact h₁.trans (flushOut_flushed h₁.owns)
      · next lib₂ hrx =>
        have h₂ := flushRxBump_flushed h₁.owns hrx
        exact (h₁.trans h₂).trans (flushOut_flushed h₂.owns)

/-- **`tcp_flush_bumps`** visits at most the one socket on the list. -/
theorem tcpFlushBumps_flushed {g : ConnId} {lib : TcpLib} (h : LibOwns g lib) :
    Flushed g lib (tcpFlushBumps lib g.ctxId) := by
  unfold tcpFlushBumps
  dsimp only
  generalize hemp : lib.setCtx g.ctxId
    { lib.ctxs g.ctxId with bumpHead := tcpBumpNone, bumpTail := tcpBumpNone } = lib₀
  have hsock : libSock g lib₀ = libSock g lib := by rw [← hemp, libSock_setCtx]
  have hctx : lib₀.ctxs g.ctxId =
      { lib.ctxs g.ctxId with bumpHead := tcpBumpNone, bumpTail := tcpBumpNone } := by
    rw [← hemp, TcpLib.setCtx_ctxs]
  have hq : outQueue g lib₀ = outQueue g lib := by
    unfold outQueue
    rw [hctx]
  have hat : lib₀.sockAt = lib.sockAt := by rw [← hemp]; rfl
  -- the emptied list is the connection's once the socket is marked as off it
  have hoff : ∀ s : TcpSocketLib, s.still = (libSock g lib).still → s.bumpPending = false →
      s.txBumpPending = (libSock g lib).txBumpPending →
      s.rxBumpPending = (libSock g lib).rxBumpPending →
      Flushed g lib (lib₀.setSock g.fd s) := by
    intro s hs hp htx hrx
    refine ⟨⟨?_, ?_, ?_, ?_, Or.inr ?_⟩, ?_, ?_, ?_, ?_, hat⟩
    · rw [libSock_setSock, ← h.fd]
      exact (congrArg TcpSocketLib.fd hs :)
    · rw [libSock_setSock, ← h.ctx]
      exact (congrArg TcpSocketLib.ctx hs :)
    · rw [libSock_setSock, ← h.core]
      exact (congrArg TcpSocketLib.core hs :)
    · rw [libSock_setSock, ← h.sockId]
      exact (congrArg TcpSocketLib.sockId hs :)
    · rw [libSock_setSock, TcpLib.setSock_ctxs, hctx]
      exact ⟨hp, rfl, rfl⟩
    · rw [libSock_setSock, hs]
    · rw [libSock_setSock, outQueue_setSock, hq, htx]
    · rw [libSock_setSock, outQueue_setSock, hq, hrx]
    · rw [outQueue_setSock, hq]
      exact fun e he => Or.inl he
  have hstop : ∀ n lib, flushLoop g.ctxId n tcpBumpNone lib = lib := by
    intro n lib
    cases n with
    | zero => rfl
    | succ n =>
      unfold flushLoop
      rw [if_pos rfl]
  rcases h.listed with ⟨hp, hn, hhead, -⟩ | ⟨hp, hhead, -⟩
  · rw [hhead]
    show Flushed g lib (flushLoop g.ctxId (8191 + 1) g.fd lib₀)
    unfold flushLoop
    rw [if_neg (fd_ne_none g), Int.toNat_natCast]
    have hn₀ : (lib₀.socks g.fd).bumpNext = tcpBumpNone := by
      show (libSock g lib₀).bumpNext = _
      rw [hsock, hn]
    dsimp only
    rw [hn₀, hstop]
    have h₁ := hoff { lib₀.socks g.fd with bumpPending := false, bumpNext := tcpBumpNone }
      (by show (libSock g lib₀).still = _; rw [hsock]) rfl
      (by show (libSock g lib₀).txBumpPending = _; rw [hsock])
      (by show (libSock g lib₀).rxBumpPending = _; rw [hsock])
    split
    · exact h₁.trans (sockFlushBumps_flushed h₁.owns)
    · exact h₁
  · rw [hhead, hstop]
    have hself : lib₀.setSock g.fd (libSock g lib₀) = lib₀ := by
      unfold TcpLib.setSock libSock
      congr 1
      funext k
      split
      · next hk => rw [hk]
      · rfl
    rw [← hself, hsock]
    exact hoff (libSock g lib) rfl hp rfl rfl

/-! ## The calls -/

/-- Editing anything but the names and the list fields of the entry. -/
theorem LibOwns.edit {g : ConnId} {lib : TcpLib} {s : TcpSocketLib} (h : LibOwns g lib)
    (hfd : s.fd = (libSock g lib).fd) (hctx : s.ctx = (libSock g lib).ctx)
    (hcore : s.core = (libSock g lib).core) (hid : s.sockId = (libSock g lib).sockId)
    (hp : s.bumpPending = (libSock g lib).bumpPending)
    (hn : s.bumpNext = (libSock g lib).bumpNext) : LibOwns g (lib.setSock g.fd s) := by
  refine ⟨?_, ?_, ?_, ?_, ?_⟩
  · rw [libSock_setSock, hfd, h.fd]
  · rw [libSock_setSock, hctx, h.ctx]
  · rw [libSock_setSock, hcore, h.core]
  · rw [libSock_setSock, hid, h.sockId]
  · rw [libSock_setSock, hp, hn, TcpLib.setSock_ctxs]
    exact h.listed

/-- A released amount is taken off the transmit ring, once. -/
theorem handleTxBump_spec {g : ConnId} {lib : TcpLib} (h : LibOwns g lib)
    (hat : lib.sockAt g.opaquePtr = some g.fd) (k : UInt32) {b : UInt32}
    (hb : (if k > (libSock g lib).txAvail then (libSock g lib).txAvail else k) = b) :
    (((libSock g lib).txLen = 0 ∨ b = 0) ∧ handleTxBump lib g.opaquePtr k = lib) ∨
    Flushed g (lib.setSock g.fd (libReleaseTx (libSock g lib) b))
      (handleTxBump lib g.opaquePtr k) := by
  have hfd : (libSock g lib).fd ≠ sockInactive := by
    rw [h.fd]
    exact fd_ne_none g
  have hown : LibOwns g (lib.setSock g.fd (libReleaseTx (libSock g lib) b)) :=
    h.edit rfl rfl rfl rfl rfl rfl
  have hctx : (libReleaseTx (libSock g lib) b).ctx = some g.ctxId := h.ctx
  have heq : handleTxBump lib g.opaquePtr k =
      if (libSock g lib).txLen = 0 then lib
      else if b = 0 then lib
      else if (libReleaseTx (libSock g lib) b).txBumpPending ≠ 0 ∧
          (libReleaseTx (libSock g lib) b).txAvail =
            (libReleaseTx (libSock g lib) b).txBumpPending then
        sockFlushBumps (lib.setSock g.fd (libReleaseTx (libSock g lib) b)) g.ctxId g.fd
      else lib.setSock g.fd (libReleaseTx (libSock g lib) b) := by
    unfold handleTxBump libSock at *
    rw [hat]
    dsimp only
    rw [hb, hctx]
    by_cases hz : (lib.socks g.fd).txLen = 0
    · rw [if_pos (Or.inr hz), if_pos hz]
    · rw [if_neg (by rintro (hf | hl); exacts [hfd hf, hz hl]), if_neg hz]
  rw [heq]
  by_cases hl : (libSock g lib).txLen = 0
  · rw [if_pos hl]
    exact Or.inl ⟨Or.inl hl, rfl⟩
  · rw [if_neg hl]
    by_cases hz : b = 0
    · rw [if_pos hz]
      exact Or.inl ⟨Or.inr hz, rfl⟩
    · rw [if_neg hz]
      right
      split
      · exact sockFlushBumps_flushed hown
      · exact Flushed.refl hown

/-- An announced amount joins the receive ring, as far as it fits. -/
theorem handleRxBump_spec {g : ConnId} {lib : TcpLib} (h : LibOwns g lib)
    (hat : lib.sockAt g.opaquePtr = some g.fd) (rxPort : UInt16) (rxIp k : UInt32) {b : UInt32}
    (hb : (if k > (libSock g lib).rxLen - (libSock g lib).rxAvail then
      (libSock g lib).rxLen - (libSock g lib).rxAvail else k) = b) :
    (((libSock g lib).rxLen = 0 ∨ b = 0) ∧
      handleRxBump lib g.opaquePtr rxPort rxIp k = lib) ∨
    Flushed g (lib.setSock g.fd (libAnnounceRx (libSock g lib) rxPort rxIp b))
      (handleRxBump lib g.opaquePtr rxPort rxIp k) := by
  have hfd : (libSock g lib).fd ≠ sockInactive := by
    rw [h.fd]
    exact fd_ne_none g
  have heq : handleRxBump lib g.opaquePtr rxPort rxIp k =
      if (libSock g lib).rxLen = 0 then lib
      else if b = 0 then lib
      else lib.setSock g.fd (libAnnounceRx (libSock g lib) rxPort rxIp b) := by
    unfold handleRxBump libSock at *
    rw [hat]
    dsimp only
    rw [hb]
    by_cases hz : (lib.socks g.fd).rxLen = 0
    · rw [if_pos (Or.inr hz), if_pos hz]
    · rw [if_neg (by rintro (hf | hl); exacts [hfd hf, hz hl]), if_neg hz]
  rw [heq]
  by_cases hl : (libSock g lib).rxLen = 0
  · rw [if_pos hl]
    exact Or.inl ⟨Or.inl hl, rfl⟩
  · rw [if_neg hl]
    by_cases hz : b = 0
    · rw [if_pos hz]
      exact Or.inl ⟨Or.inr hz, rfl⟩
    · rw [if_neg hz]
      right
      exact Flushed.refl (h.edit rfl rfl rfl rfl rfl rfl)

/-- A descriptor is the index of its entry. -/
theorem lookupSock_fd {lib : TcpLib} {c fd i : Nat} (h : lookupSock lib c fd = some i) :
    i = fd := by
  unfold lookupSock at h
  split at h
  · cases h
  · dsimp only at h
    split at h
    · cases h
    · cases h
      exact Int.toNat_natCast fd

/-- **`tcp_sendto`** leaves everything alone, or copies the `sendtoLen`
first bytes behind the ring's content and counts them as pending. -/
theorem tcpSendto_spec {g : ConnId} {lib : TcpLib} (h : LibOwns g lib) (shm : Nat → UInt8)
    (buf : List UInt8) (addr : Option SockAddr) :
    ((tcpSendto lib shm g.ctxId g.fd buf addr).1 = lib ∧
      (tcpSendto lib shm g.ctxId g.fd buf addr).2.1 = shm) ∨
    ∃ txIp txPort, 0 < sendtoLen (libSock g lib) buf.length ∧
      (tcpSendto lib shm g.ctxId g.fd buf addr).2.1 =
        libCopyIn (libSock g lib) shm buf (sendtoLen (libSock g lib) buf.length) ∧
      Flushed g (lib.setSock g.fd (libAppendTx (libSock g lib) txIp txPort
          (sendtoLen (libSock g lib) buf.length)))
        (tcpSendto lib shm g.ctxId g.fd buf addr).1 := by
  unfold tcpSendto
  split
  · exact Or.inl ⟨rfl, rfl⟩
  · next i hi =>
    obtain rfl : i = g.fd := lookupSock_fd hi
    dsimp only
    split
    · exact Or.inl ⟨rfl, rfl⟩
    · split
      · exact Or.inl ⟨rfl, rfl⟩
      · next txIp txPort _ =>
        split
        · exact Or.inl ⟨rfl, rfl⟩
        · split
          · exact Or.inl ⟨rfl, rfl⟩
          · next hn =>
            right
            have hown : LibOwns g (lib.setSock g.fd (libAppendTx (libSock g lib) txIp txPort
                (sendtoLen (libSock g lib) buf.length))) := h.edit rfl rfl rfl rfl rfl rfl
            refine ⟨txIp, txPort, ?_, rfl, ?_⟩
            · exact UInt32.pos_iff_ne_zero.mpr hn
            · have hmark := sockMarkBump_flushed hown
              split
              · exact hmark.trans (sockFlushBumps_flushed hmark.owns)
              · exact hmark

/-- **`tcp_recvfrom`** leaves everything alone, faults, or hands out
`recvLen` bytes of the ring and counts them as pending. -/
theorem tcpRecvfrom_spec {g : ConnId} {lib : TcpLib} (h : LibOwns g lib) (shm : Nat → UInt8)
    (len : Nat) (addrOk : Bool) :
    ((tcpRecvfrom lib shm g.ctxId g.fd len addrOk).1 = lib ∧
      (tcpRecvfrom lib shm g.ctxId g.fd len addrOk).2 = .ret (-1) []) ∨
    ((tcpRecvfrom lib shm g.ctxId g.fd len addrOk).1 = lib ∧
      (tcpRecvfrom lib shm g.ctxId g.fd len addrOk).2 = .fault ∧
      libCopyOut (libSock g lib) shm (recvLen (libSock g lib) len) = none) ∨
    ∃ bytes, 0 < recvLen (libSock g lib) len ∧
      libCopyOut (libSock g lib) shm (recvLen (libSock g lib) len) = some bytes ∧
      (tcpRecvfrom lib shm g.ctxId g.fd len addrOk).2 =
        .ret (s32 (recvLen (libSock g lib) len)) bytes ∧
      Flushed g (lib.setSock g.fd (libConsumeRx (libSock g lib) (recvLen (libSock g lib) len)))
        (tcpRecvfrom lib shm g.ctxId g.fd len addrOk).1 := by
  unfold tcpRecvfrom
  split
  · exact Or.inl ⟨rfl, rfl⟩
  · next i hi =>
    obtain rfl : i = g.fd := lookupSock_fd hi
    dsimp only
    split
    · exact Or.inl ⟨rfl, rfl⟩
    · split
      · exact Or.inl ⟨rfl, rfl⟩
      · split
        · exact Or.inl ⟨rfl, rfl⟩
        · next hn =>
          right
          split
          · next hc => exact Or.inl ⟨rfl, rfl, hc⟩
          · next bytes hc =>
            right
            have hown : LibOwns g (lib.setSock g.fd
                (libConsumeRx (libSock g lib) (recvLen (libSock g lib) len))) :=
              h.edit rfl rfl rfl rfl rfl rfl
            have hmark := sockMarkBump_flushed hown
            refine ⟨bytes, UInt32.pos_iff_ne_zero.mpr hn, hc, rfl, ?_⟩
            split
            · exact hmark.trans (sockFlushBumps_flushed hmark.owns)
            · exact hmark

end Chamelio.Tcp
