import Mathlib.Algebra.GroupWithZero.Nat
import Chamelio.Lib.Chain
import Chamelio.Tcp.LibSpec

/-!
# The pending list of a context (`protos/tcp/lib/tcp_lib.c`)

Sockets with bytes to announce are linked through `bump_next` from the
context's `bump_head`. `tcp_flush_bumps` empties the list and then visits
what was on it; a socket whose bumps do not fit into the queue of its core is
marked again and ends up on a new list.

`Lists` describes both lists at once, so that it is the invariant of the
loop; between calls the second one is empty. `Walked` says what a walk over
a list does to the queues and the pending counters: the entries are pushed in
list order until the queue of a core is full, so a socket's bytes are
announced exactly when its core has more room than the sockets before it on
the list need.
-/

namespace Chamelio.Tcp

open Chamelio.Lib

/-- The descriptor behind `fd` on a pending list. -/
def bumpNextOf (lib : TcpLib) (fd : Int) : Int := (lib.socks fd.toNat).bumpNext

/-- The pending list of context `c`, and the part of an older one from
`cur` on that is still to be visited. -/
structure Lists (lib : TcpLib) (c : Nat) (cur : Int) (again rest : List Int) : Prop where
  pending : Chain (bumpNextOf lib) tcpBumpNone (lib.ctxs c).bumpHead again
  last : (lib.ctxs c).bumpTail = again.getLast?.getD tcpBumpNone
  older : Chain (bumpNextOf lib) tcpBumpNone cur rest
  nodup : (again ++ rest).Nodup
  mem : ∀ i : Nat, (i : Int) ∈ again ++ rest ↔
    (lib.socks i).ctx = some c ∧ (lib.socks i).bumpPending = true
  nonneg : ∀ x ∈ again ++ rest, 0 ≤ x

/-- Entries a flush of the socket takes. -/
def bumpEntries (sock : TcpSocketLib) : Nat :=
  (if sock.txBumpPending = 0 then 0 else 1) + if sock.rxBumpPending = 0 then 0 else 1

/-- Free slots of the queue from context `c` to core `core`. -/
def fastRoom (lib : TcpLib) (c core : Nat) : Nat :=
  ((lib.ctxs c).appFastQs core).nelems - ((lib.ctxs c).appFastQs core).items.length

/-- What the sockets of a list need on the queue to core `core`. -/
def needed (lib : TcpLib) (core : Nat) (fds : List Int) : Nat :=
  (fds.map fun fd =>
    let sock := lib.socks fd.toNat
    if sock.fd ≠ sockInactive ∧ sock.core.toNat = core then bumpEntries sock else 0).sum

theorem needed_cons (lib : TcpLib) (core : Nat) (fd : Int) (fds : List Int) :
    needed lib core (fd :: fds) =
      (if (lib.socks fd.toNat).fd ≠ sockInactive ∧ (lib.socks fd.toNat).core.toNat = core then
        bumpEntries (lib.socks fd.toNat) else 0) + needed lib core fds := by
  simp [needed]

/-- The sum only reads the sockets of the list. -/
theorem needed_congr {lib lib' : TcpLib} (core : Nat) {fds : List Int}
    (h : ∀ fd ∈ fds, (lib'.socks fd.toNat).fd = (lib.socks fd.toNat).fd ∧
      (lib'.socks fd.toNat).core = (lib.socks fd.toNat).core ∧
      bumpEntries (lib'.socks fd.toNat) = bumpEntries (lib.socks fd.toNat)) :
    needed lib' core fds = needed lib core fds := by
  induction fds with
  | nil => rfl
  | cons fd fds ih =>
    obtain ⟨hfd, hcore, hent⟩ := h fd (by simp)
    rw [needed_cons, needed_cons, hfd, hcore, hent, ih fun x hx => h x (by simp [hx])]

theorem fastRoom_pos_iff (lib : TcpLib) (c core : Nat) :
    0 < fastRoom lib c core ↔ ((lib.ctxs c).appFastQs core).hasRoom = true := by
  unfold fastRoom Fifo.hasRoom
  rw [decide_eq_true_iff]
  omega

/-! ## What a visit does -/

/-- The parts of a library state that a flush of context `c` leaves alone. -/
structure FlushOf (c : Nat) (lib lib' : TcpLib) : Prop where
  still : ∀ j, (lib'.socks j).still = (lib.socks j).still
  foreign : ∀ j, (lib.socks j).ctx ≠ some c → lib'.socks j = lib.socks j
  ctxs : ∀ k, k ≠ c → lib'.ctxs k = lib.ctxs k
  kept : ∀ core, ((lib.ctxs c).appFastQs core).items <+: ((lib'.ctxs c).appFastQs core).items
  sockAt : lib'.sockAt = lib.sockAt

theorem FlushOf.refl (c : Nat) (lib : TcpLib) : FlushOf c lib lib :=
  ⟨fun _ => rfl, fun _ _ => rfl, fun _ _ => rfl, fun _ => List.prefix_rfl, rfl⟩

section

variable {c : Nat} {lib lib' lib₁ lib₂ lib₃ : TcpLib} {cur : Int} {again rest : List Int} {i : Nat}

theorem FlushOf.fd (h : FlushOf c lib lib') (j : Nat) :
    (lib'.socks j).fd = (lib.socks j).fd := (congrArg TcpSocketLib.fd (h.still j) :)

theorem FlushOf.ctx (h : FlushOf c lib lib') (j : Nat) :
    (lib'.socks j).ctx = (lib.socks j).ctx := (congrArg TcpSocketLib.ctx (h.still j) :)

theorem FlushOf.core (h : FlushOf c lib lib') (j : Nat) :
    (lib'.socks j).core = (lib.socks j).core := (congrArg TcpSocketLib.core (h.still j) :)

theorem FlushOf.sockId (h : FlushOf c lib lib') (j : Nat) :
    (lib'.socks j).sockId = (lib.socks j).sockId := (congrArg TcpSocketLib.sockId (h.still j) :)

theorem FlushOf.remotePort (h : FlushOf c lib lib') (j : Nat) :
    (lib'.socks j).remotePort = (lib.socks j).remotePort :=
  (congrArg TcpSocketLib.remotePort (h.still j) :)

theorem FlushOf.remoteIp (h : FlushOf c lib lib') (j : Nat) :
    (lib'.socks j).remoteIp = (lib.socks j).remoteIp :=
  (congrArg TcpSocketLib.remoteIp (h.still j) :)

theorem FlushOf.trans (h₁ : FlushOf c lib₁ lib₂) (h₂ : FlushOf c lib₂ lib₃) :
    FlushOf c lib₁ lib₃ := by
  refine ⟨fun j => (h₂.still j).trans (h₁.still j), fun j hj => ?_,
    fun k hk => (h₂.ctxs k hk).trans (h₁.ctxs k hk),
    fun core => (h₁.kept core).trans (h₂.kept core), h₂.sockAt.trans h₁.sockAt⟩
  rw [h₂.foreign j (by rw [h₁.ctx j]; exact hj), h₁.foreign j hj]

/-- An edit of a socket's links and counters. -/
theorem flushOf_setSock (hctx : (lib.socks i).ctx = some c) {s : TcpSocketLib}
    (hs : s.still = (lib.socks i).still) : FlushOf c lib (lib.setSock i s) := by
  refine ⟨fun j => ?_, fun j hj => ?_, fun _ _ => rfl, fun _ => List.prefix_rfl, rfl⟩
  · by_cases hji : j = i
    · rw [hji, TcpLib.setSock_socks, hs]
    · rw [TcpLib.setSock_socks_ne _ _ hji]
  · have hji : j ≠ i := by
      intro he
      exact hj (by rw [he, hctx])
    exact TcpLib.setSock_socks_ne _ _ hji

/-- An edit of the context that keeps the queues. -/
theorem flushOf_setCtx {x : TcpContextLib} (hx : x.appFastQs = (lib.ctxs c).appFastQs) :
    FlushOf c lib (lib.setCtx c x) := by
  refine ⟨fun _ => rfl, fun _ _ => rfl, fun k hk => ?_, fun core => ?_, rfl⟩
  · unfold TcpLib.setCtx
    exact if_neg hk
  · simp only [TcpLib.setCtx_ctxs, hx, List.prefix_rfl]

/-! ## Marking -/

/-- A socket that is not marked is on neither list. -/
theorem Lists.not_mem (h : Lists lib c cur again rest)
    (hp : (lib.socks i).bumpPending = false) : (i : Int) ∉ again ++ rest := by
  intro hm
  rw [((h.mem i).mp hm).2] at hp
  cases hp

/-- Only links, the ends of the list and the membership matter. -/
theorem Lists.congr (h : Lists lib c cur again rest)
    (hends : (lib'.ctxs c).bumpHead = (lib.ctxs c).bumpHead ∧
      (lib'.ctxs c).bumpTail = (lib.ctxs c).bumpTail)
    (hsock : ∀ j, (lib'.socks j).bumpNext = (lib.socks j).bumpNext ∧
      (lib'.socks j).bumpPending = (lib.socks j).bumpPending ∧
      (lib'.socks j).ctx = (lib.socks j).ctx) : Lists lib' c cur again rest := by
  have hnext : bumpNextOf lib' = bumpNextOf lib := by
    funext x
    exact (hsock x.toNat).1
  refine ⟨?_, ?_, ?_, h.nodup, fun i => ?_, h.nonneg⟩
  · rw [hnext, hends.1]
    exact h.pending
  · rw [hends.2]
    exact h.last
  · rw [hnext]
    exact h.older
  · rw [(hsock i).2.1, (hsock i).2.2]
    exact h.mem i

/-- The link of one socket is written. -/
theorem bumpNextOf_setSock (lib : TcpLib) (i : Nat) (s : TcpSocketLib) {x : Int} (hx : 0 ≤ x) :
    bumpNextOf (lib.setSock i s) x = if x = i then s.bumpNext else bumpNextOf lib x := by
  unfold bumpNextOf
  by_cases hxi : x = i
  · rw [if_pos hxi, hxi, Int.toNat_natCast, TcpLib.setSock_socks]
  · rw [if_neg hxi, TcpLib.setSock_socks_ne _ _ (by omega)]

/-- What marking a socket leaves alone besides. -/
structure SameBumps (c : Nat) (lib lib' : TcpLib) : Prop where
  tx : ∀ j, (lib'.socks j).txBumpPending = (lib.socks j).txBumpPending
  rx : ∀ j, (lib'.socks j).rxBumpPending = (lib.socks j).rxBumpPending
  queues : (lib'.ctxs c).appFastQs = (lib.ctxs c).appFastQs
  marked : ∀ j, (lib.socks j).bumpPending = true → (lib'.socks j).bumpPending = true

theorem SameBumps.refl (c : Nat) (lib : TcpLib) : SameBumps c lib lib :=
  ⟨fun _ => rfl, fun _ => rfl, rfl, fun _ h => h⟩

theorem SameBumps.trans (h₁ : SameBumps c lib₁ lib₂) (h₂ : SameBumps c lib₂ lib₃) :
    SameBumps c lib₁ lib₃ :=
  ⟨fun j => (h₂.tx j).trans (h₁.tx j), fun j => (h₂.rx j).trans (h₁.rx j),
    h₂.queues.trans h₁.queues, fun j h => h₂.marked j (h₁.marked j h)⟩

theorem SameBumps.room (h : SameBumps c lib lib') (core : Nat) :
    fastRoom lib' c core = fastRoom lib c core := by
  unfold fastRoom
  rw [h.queues]

theorem sameBumps_setSock {s : TcpSocketLib} (htx : s.txBumpPending = (lib.socks i).txBumpPending)
    (hrx : s.rxBumpPending = (lib.socks i).rxBumpPending)
    (hp : (lib.socks i).bumpPending = true → s.bumpPending = true) :
    SameBumps c lib (lib.setSock i s) := by
  have hcases : ∀ j, (lib.setSock i s).socks j = lib.socks j ∨
      j = i ∧ (lib.setSock i s).socks j = s := by
    intro j
    by_cases hji : j = i
    · exact .inr ⟨hji, by rw [hji, TcpLib.setSock_socks]⟩
    · exact .inl (TcpLib.setSock_socks_ne _ _ hji)
  refine ⟨fun j => ?_, fun j => ?_, rfl, fun j => ?_⟩
  · rcases hcases j with he | ⟨rfl, he⟩
    · rw [he]
    · rw [he, htx]
  · rcases hcases j with he | ⟨rfl, he⟩
    · rw [he]
    · rw [he, hrx]
  · rcases hcases j with he | ⟨rfl, he⟩
    · rw [he]
      exact id
    · rw [he]
      exact hp

/-- Both lists after a socket that was on neither is put at the end of the
first, given what that does to the links. -/
theorem Lists.append (h : Lists lib c cur again rest) (hctx : (lib.socks i).ctx = some c)
    (hoff : (lib.socks i).bumpPending = false)
    (hchain : Chain (bumpNextOf lib') tcpBumpNone (lib'.ctxs c).bumpHead (again ++ [(i : Int)]))
    (htail : (lib'.ctxs c).bumpTail = i)
    (hrest : ∀ x ∈ rest, bumpNextOf lib' x = bumpNextOf lib x)
    (hctxs : ∀ j, (lib'.socks j).ctx = (lib.socks j).ctx)
    (hmark : ∀ j, (lib'.socks j).bumpPending = if j = i then true else (lib.socks j).bumpPending) :
    Lists lib' c cur (again ++ [(i : Int)]) rest := by
  have hno := h.not_mem hoff
  have hnodup := List.nodup_append.mp h.nodup
  refine ⟨hchain, by simp [htail], chain_congr hrest h.older, ?_, fun j => ?_, ?_⟩
  · simp only [List.mem_append, not_or] at hno
    refine List.nodup_append.mpr ⟨List.nodup_append.mpr ⟨hnodup.1, by simp, ?_⟩, hnodup.2.1, ?_⟩
    · intro a ha b hb hab
      rw [List.mem_singleton] at hb
      exact hno.1 (by rw [← hb, ← hab]; exact ha)
    · intro a ha b hb hab
      rcases List.mem_append.mp ha with ha | ha
      · exact hnodup.2.2 a ha b hb hab
      · rw [List.mem_singleton] at ha
        exact hno.2 (by rw [← ha, hab]; exact hb)
  · have hj := h.mem j
    rw [hctxs, hmark]
    by_cases hji : j = i
    · rw [if_pos hji, hji]
      simp [hctx]
    · have hne : (j : Int) ≠ i := by omega
      rw [if_neg hji, ← hj]
      simp [hne]
  · intro x hx
    simp only [List.mem_append, List.mem_singleton] at hx
    rcases hx with (hx | hx) | hx
    · exact h.nonneg x (List.mem_append_left _ hx)
    · omega
    · exact h.nonneg x (List.mem_append_right _ hx)

/-- Socket `s` with the mark set and the link cleared. -/
private structure MarkOf (s s' : TcpSocketLib) : Prop where
  still : s'.still = s.still
  pending : s'.bumpPending = true
  next : s'.bumpNext = tcpBumpNone
  tx : s'.txBumpPending = s.txBumpPending
  rx : s'.rxBumpPending = s.rxBumpPending

/-- Socket `s` with its link to `fd`. -/
private structure LinkTo (fd : Int) (s s' : TcpSocketLib) : Prop where
  still : s'.still = s.still
  pending : s'.bumpPending = s.bumpPending
  next : s'.bumpNext = fd
  tx : s'.txBumpPending = s.txBumpPending
  rx : s'.rxBumpPending = s.rxBumpPending

section mark

variable {s₁ s₂ : TcpSocketLib} {l : List Int} {t : Int}

private theorem MarkOf.sameBumps (hm : MarkOf (lib.socks i) s₁) :
    SameBumps c lib (lib.setSock i s₁) :=
  sameBumps_setSock hm.tx hm.rx fun _ => hm.pending

/-- The socket is on neither list, so their links are as they were. -/
private theorem Lists.next_off (h : Lists lib c cur again rest)
    (hoff : (lib.socks i).bumpPending = false) {x : Int} (hx : x ∈ again ++ rest) :
    bumpNextOf (lib.setSock i s₁) x = bumpNextOf lib x := by
  rw [bumpNextOf_setSock _ _ _ (h.nonneg x hx), if_neg]
  intro he
  exact h.not_mem hoff (he ▸ hx)

private theorem MarkOf.next_self (hm : MarkOf (lib.socks i) s₁) :
    bumpNextOf (lib.setSock i s₁) i = tcpBumpNone := by
  rw [bumpNextOf_setSock _ _ _ (by omega), if_pos rfl, hm.next]

/-- Marking when the list is empty: the socket is its head and its tail. -/
private theorem Lists.mark_first (h : Lists lib c cur [] rest)
    (hctx : (lib.socks i).ctx = some c) (hoff : (lib.socks i).bumpPending = false)
    (hm : MarkOf (lib.socks i) s₁) :
    let lib' := (lib.setSock i s₁).setCtx c
      { lib.ctxs c with bumpHead := (i : Int), bumpTail := (i : Int) }
    FlushOf c lib lib' ∧ SameBumps c lib lib' ∧ (lib'.socks i).bumpPending = true ∧
      Lists lib' c cur [(i : Int)] rest := by
  intro lib'
  have hf := flushOf_setSock hctx hm.still
  have hne : (i : Int) ≠ tcpBumpNone := by
    unfold tcpBumpNone
    omega
  refine ⟨hf.trans (flushOf_setCtx rfl), hm.sameBumps.trans ⟨fun _ => rfl, fun _ => rfl, ?_,
    fun _ h => h⟩, ?_, ?_⟩
  · rw [TcpLib.setCtx_ctxs]
    rfl
  · rw [TcpLib.setCtx_socks, TcpLib.setSock_socks, hm.pending]
  · refine h.append hctx hoff ?_ ?_ (fun x hx => h.next_off hoff (by simpa using hx)) (fun j => ?_)
      fun j => ?_
    · rw [TcpLib.setCtx_ctxs]
      exact chain_cons hne ⟨hm.next_self, by simp⟩
    · rw [TcpLib.setCtx_ctxs]
    · exact hf.ctx j
    · rw [TcpLib.setCtx_socks]
      by_cases hji : j = i
      · rw [if_pos hji, hji, TcpLib.setSock_socks, hm.pending]
      · rw [if_neg hji, TcpLib.setSock_socks_ne _ _ hji]

/-- What the last socket `t` of the list is: another one, of the same
context, and on no other list. -/
private theorem Lists.last_facts (h : Lists lib c cur (l ++ [t]) rest)
    (hoff : (lib.socks i).bumpPending = false) :
    0 ≤ t ∧ t.toNat ≠ i ∧ (lib.socks t.toNat).ctx = some c ∧ t ∉ l ∧ t ∉ rest := by
  have ht : 0 ≤ t := h.nonneg t (by simp)
  have hti : t ≠ i := by
    intro he
    exact h.not_mem hoff (by simp [he])
  have hmem := (h.mem t.toNat).mp (by rw [Int.toNat_of_nonneg ht]; simp)
  have hnodup := List.nodup_append.mp h.nodup
  refine ⟨ht, by omega, hmem.1, ?_, ?_⟩
  · intro hm
    exact (List.nodup_append.mp hnodup.1).2.2 t hm t (by simp) rfl
  · intro hm
    exact hnodup.2.2 t (by simp) t hm rfl

/-- The links once `t` leads to socket `i`. -/
private theorem LinkTo.links (hl : LinkTo i (lib.socks t.toNat) s₂) (ht : 0 ≤ t) {x : Int}
    (hx : 0 ≤ x) : bumpNextOf ((lib.setSock i s₁).setSock t.toNat s₂) x =
      redirect (bumpNextOf (lib.setSock i s₁)) t i x := by
  rw [bumpNextOf_setSock _ _ _ hx, Int.toNat_of_nonneg ht, hl.next]
  rfl

/-- The list with the socket behind its last one. -/
private theorem Lists.link_behind (h : Lists lib c cur (l ++ [t]) rest)
    (hoff : (lib.socks i).bumpPending = false) (hm : MarkOf (lib.socks i) s₁)
    (hl : LinkTo i (lib.socks t.toNat) s₂) :
    Chain (bumpNextOf ((lib.setSock i s₁).setSock t.toNat s₂)) tcpBumpNone
      (lib.ctxs c).bumpHead (l ++ [t] ++ [(i : Int)]) := by
  obtain ⟨ht, htn, -, htl, -⟩ := h.last_facts hoff
  have hne : (i : Int) ≠ tcpBumpNone := by
    unfold tcpBumpNone
    omega
  have hlinked : Chain (redirect (bumpNextOf (lib.setSock i s₁)) t (i : Int)) tcpBumpNone
      (lib.ctxs c).bumpHead (l ++ [t] ++ (i : Int) :: []) := by
    refine chain_link htl (by simp) ?_ hne ?_ ?_
    · intro hmem
      simp only [List.append_nil] at hmem
      exact h.not_mem hoff (List.mem_append_left _ hmem)
    · exact hm.next_self
    · rw [List.append_nil]
      exact chain_congr (fun x hx => h.next_off hoff (List.mem_append_left _ hx)) h.pending
  refine chain_congr (fun x hx => hl.links ht ?_) hlinked
  simp only [List.mem_append, List.mem_cons, List.not_mem_nil, or_false] at hx
  rcases hx with (hx | hx) | hx
  · exact h.nonneg x (by simp [hx])
  · omega
  · omega

/-- Marking when the list ends with `t`: the socket is linked behind it. -/
private theorem Lists.mark_behind (h : Lists lib c cur (l ++ [t]) rest)
    (hctx : (lib.socks i).ctx = some c) (hoff : (lib.socks i).bumpPending = false)
    (hm : MarkOf (lib.socks i) s₁) (hl : LinkTo i (lib.socks t.toNat) s₂) :
    let lib' := ((lib.setSock i s₁).setSock t.toNat s₂).setCtx c
      { lib.ctxs c with bumpTail := (i : Int) }
    FlushOf c lib lib' ∧ SameBumps c lib lib' ∧ (lib'.socks i).bumpPending = true ∧
      Lists lib' c cur (l ++ [t] ++ [(i : Int)]) rest := by
  intro lib'
  obtain ⟨ht, htn, htctx, -, htrest⟩ := h.last_facts hoff
  have hf₁ := flushOf_setSock hctx hm.still
  have hold : (lib.setSock i s₁).socks t.toNat = lib.socks t.toNat :=
    TcpLib.setSock_socks_ne _ _ htn
  have hf₂ : FlushOf c (lib.setSock i s₁) ((lib.setSock i s₁).setSock t.toNat s₂) := by
    refine flushOf_setSock ?_ ?_
    · rw [hold, htctx]
    · rw [hold, hl.still]
  have hb₂ : SameBumps c (lib.setSock i s₁) ((lib.setSock i s₁).setSock t.toNat s₂) := by
    refine sameBumps_setSock ?_ ?_ ?_
    · rw [hold, hl.tx]
    · rw [hold, hl.rx]
    · rw [hold, hl.pending]
      exact id
  refine ⟨(hf₁.trans hf₂).trans (flushOf_setCtx rfl), (hm.sameBumps.trans hb₂).trans
    ⟨fun _ => rfl, fun _ => rfl, ?_, fun _ h => h⟩, ?_, ?_⟩
  · rw [TcpLib.setCtx_ctxs]
    rfl
  · rw [TcpLib.setCtx_socks, TcpLib.setSock_socks_ne _ _ (Ne.symm htn), TcpLib.setSock_socks,
      hm.pending]
  · refine h.append hctx hoff ?_ ?_ (fun x hx => ?_) (fun j => ?_) fun j => ?_
    · rw [TcpLib.setCtx_ctxs]
      exact h.link_behind hoff hm hl
    · rw [TcpLib.setCtx_ctxs]
    · refine (hl.links ht (h.nonneg x (List.mem_append_right _ hx))).trans ?_
      rw [redirect_ne _ _ (by intro he; exact htrest (he ▸ hx))]
      exact h.next_off hoff (List.mem_append_right _ hx)
    · exact (hf₁.trans hf₂).ctx j
    · rw [TcpLib.setCtx_socks]
      by_cases hji : j = i
      · rw [if_pos hji, hji, TcpLib.setSock_socks_ne _ _ (Ne.symm htn), TcpLib.setSock_socks,
          hm.pending]
      · rw [if_neg hji]
        by_cases hjt : j = t.toNat
        · rw [hjt, TcpLib.setSock_socks, hl.pending]
        · rw [TcpLib.setSock_socks_ne _ _ hjt, TcpLib.setSock_socks_ne _ _ hji]

end mark

/-- **Marking** keeps both lists and puts the socket on the first. -/
theorem sockMarkBump_spec (h : Lists lib c cur again rest) (hctx : (lib.socks i).ctx = some c)
    (hfd : (lib.socks i).fd = i) :
    FlushOf c lib (sockMarkBump lib c i) ∧ SameBumps c lib (sockMarkBump lib c i) ∧
      ((sockMarkBump lib c i).socks i).bumpPending = true ∧
      ∃ again', Lists (sockMarkBump lib c i) c cur again' rest := by
  unfold sockMarkBump
  dsimp only
  by_cases hp : (lib.socks i).bumpPending = true
  · rw [if_pos hp]
    exact ⟨.refl c lib, .refl c lib, hp, again, h⟩
  · have hoff := Bool.eq_false_iff.mpr hp
    have hm : MarkOf (lib.socks i)
        { lib.socks i with bumpPending := true, bumpNext := tcpBumpNone } :=
      ⟨rfl, rfl, rfl, rfl, rfl⟩
    rw [if_neg hp]
    generalize { lib.socks i with bumpPending := true, bumpNext := tcpBumpNone } = s₁ at hm ⊢
    rw [hfd, TcpLib.setSock_ctxs]
    rcases List.eq_nil_or_concat again with rfl | ⟨l, t, hl⟩
    · have hempty : (lib.ctxs c).bumpTail = tcpBumpNone := h.last
      rw [if_pos hempty]
      obtain ⟨hflush, hsame, hmark, hlists⟩ := h.mark_first hctx hoff hm
      exact ⟨hflush, hsame, hmark, _, hlists⟩
    · rw [List.concat_eq_append] at hl
      subst hl
      obtain ⟨ht, htn, -, -, -⟩ := h.last_facts hoff
      have htail : (lib.ctxs c).bumpTail = t := by
        rw [h.last]
        simp
      rw [htail, if_neg (by unfold tcpBumpNone; omega), TcpLib.setSock_socks_ne _ _ htn]
      have hl : LinkTo i (lib.socks t.toNat) { lib.socks t.toNat with bumpNext := (i : Int) } :=
        ⟨rfl, rfl, rfl, rfl, rfl⟩
      obtain ⟨hflush, hsame, hmark, hlists⟩ := h.mark_behind hctx hoff hm hl
      exact ⟨hflush, hsame, hmark, _, hlists⟩

/-! ## Flushing one socket -/

/-- Half of a flush of socket `i` that took `n` entries: the lists are as
they were. -/
structure HalfFlush (c i n : Nat) (lib lib' : TcpLib) : Prop where
  flush : FlushOf c lib lib'
  ends : (lib'.ctxs c).bumpHead = (lib.ctxs c).bumpHead ∧
    (lib'.ctxs c).bumpTail = (lib.ctxs c).bumpTail
  links : ∀ j, (lib'.socks j).bumpNext = (lib.socks j).bumpNext ∧
    (lib'.socks j).bumpPending = (lib.socks j).bumpPending ∧
    (lib'.socks j).ctx = (lib.socks j).ctx
  other : ∀ j, j ≠ i → (lib'.socks j).txBumpPending = (lib.socks j).txBumpPending ∧
    (lib'.socks j).rxBumpPending = (lib.socks j).rxBumpPending
  room : ∀ core, fastRoom lib' c core =
    fastRoom lib c core - if (lib.socks i).core.toNat = core then n else 0

theorem HalfFlush.refl (c i : Nat) (lib : TcpLib) : HalfFlush c i 0 lib lib := by
  refine ⟨.refl c lib, ⟨rfl, rfl⟩, fun _ => ⟨rfl, rfl, rfl⟩, fun _ _ => ⟨rfl, rfl⟩, fun core => ?_⟩
  simp

/-- A full queue takes nothing. -/
theorem libEnqueue_none {core : UInt16} {e : TcpQe} (h : libEnqueue lib c core e = none) :
    fastRoom lib c core.toNat = 0 := by
  have hno : ¬ 0 < fastRoom lib c core.toNat := by
    intro hpos
    unfold libEnqueue at h
    dsimp only at h
    rw [Fifo.push_of_room ((fastRoom_pos_iff lib c core.toNat).mp hpos)] at h
    cases h
  omega

/-- An entry of socket `i` was pushed and one of its counters reset. -/
theorem halfFlush_of_push {e : TcpQe} {s : TcpSocketLib} (hctx : (lib.socks i).ctx = some c)
    (h : libEnqueue lib c (lib.socks i).core e = some lib₁)
    (hstill : s.still = (lib.socks i).still)
    (hlinks : s.bumpNext = (lib.socks i).bumpNext ∧ s.bumpPending = (lib.socks i).bumpPending) :
    HalfFlush c i 1 lib (lib₁.setSock i s) ∧
      e ∈ (((lib₁.setSock i s).ctxs c).appFastQs (lib.socks i).core.toNat).items ∧
      0 < fastRoom lib c (lib.socks i).core.toNat := by
  unfold libEnqueue at h
  dsimp only at h
  split at h
  · cases h
  · next q hq =>
    cases h
    have hroom : ((lib.ctxs c).appFastQs (lib.socks i).core.toNat).hasRoom = true := by
      unfold Fifo.push at hq
      split at hq
      · next hroom => exact hroom
      · cases hq
    rw [Fifo.push_of_room hroom] at hq
    have hpos := (fastRoom_pos_iff lib c _).mpr hroom
    have hother : ∀ (x : TcpContextLib) (j : Nat), j ≠ i →
        ((lib.setCtx c x).setSock i s).socks j = lib.socks j := by
      intro x j hji
      rw [TcpLib.setSock_socks_ne _ _ hji, TcpLib.setCtx_socks]
    have hflush : FlushOf c lib (lib.setCtx c
        { lib.ctxs c with
          appFastQs := fun k =>
            if k = (lib.socks i).core.toNat then q else (lib.ctxs c).appFastQs k }) := by
      refine ⟨fun _ => rfl, fun _ _ => rfl, fun k hk => if_neg hk, fun core => ?_, rfl⟩
      rw [TcpLib.setCtx_ctxs]
      dsimp only
      split
      · next hk =>
        rw [hk, ← Option.some_inj.mp hq]
        exact List.prefix_append _ _
      · exact List.prefix_rfl
    have hset : FlushOf c (lib.setCtx c
        { lib.ctxs c with
          appFastQs := fun k =>
            if k = (lib.socks i).core.toNat then q else (lib.ctxs c).appFastQs k }) _ :=
      @flushOf_setSock c (lib.setCtx c _) i hctx s hstill
    refine ⟨⟨hflush.trans hset, ?_, fun j => ?_, fun j hji => ?_,
      fun core => ?_⟩, ?_, hpos⟩
    · rw [TcpLib.setSock_ctxs, TcpLib.setCtx_ctxs]
      exact ⟨rfl, rfl⟩
    · by_cases hji : j = i
      · rw [hji, TcpLib.setSock_socks]
        exact ⟨hlinks.1, hlinks.2, (congrArg TcpSocketLib.ctx hstill :)⟩
      · rw [hother _ j hji]
        exact ⟨rfl, rfl, rfl⟩
    · rw [hother _ j hji]
      exact ⟨rfl, rfl⟩
    · unfold fastRoom at hpos ⊢
      rw [TcpLib.setSock_ctxs, TcpLib.setCtx_ctxs]
      dsimp only
      by_cases hk : core = (lib.socks i).core.toNat
      · rw [if_pos hk, if_pos hk.symm, ← Option.some_inj.mp hq, hk]
        simp only [List.length_append, List.length_singleton]
        omega
      · rw [if_neg hk, if_neg (Ne.symm hk), Nat.sub_zero]
    · rw [TcpLib.setSock_ctxs, TcpLib.setCtx_ctxs]
      dsimp only
      rw [if_pos rfl, ← Option.some_inj.mp hq]
      simp

theorem flushTxBump_none (h : flushTxBump lib c i = none) :
    (lib.socks i).txBumpPending ≠ 0 ∧ fastRoom lib c (lib.socks i).core.toNat = 0 := by
  unfold flushTxBump at h
  dsimp only at h
  split at h
  · cases h
  · next htx =>
    split at h
    · next hfull => exact ⟨htx, libEnqueue_none hfull⟩
    · cases h

/-- The entry that announces the pending bytes of a socket. -/
def txAnnouncement (sock : TcpSocketLib) : TcpQe :=
  .bumpChamTx sock.sockId sock.remotePort sock.remoteIp sock.txBumpPending

theorem flushTxBump_some (hctx : (lib.socks i).ctx = some c)
    (h : flushTxBump lib c i = some lib') :
    HalfFlush c i (if (lib.socks i).txBumpPending = 0 then 0 else 1) lib lib' ∧
      (lib'.socks i).txBumpPending = 0 ∧
      (lib'.socks i).rxBumpPending = (lib.socks i).rxBumpPending ∧
      ((lib.socks i).txBumpPending = 0 ∨ 0 < fastRoom lib c (lib.socks i).core.toNat) ∧
      ((lib.socks i).txBumpPending ≠ 0 → txAnnouncement (lib.socks i) ∈
        ((lib'.ctxs c).appFastQs (lib.socks i).core.toNat).items) := by
  unfold flushTxBump at h
  dsimp only at h
  split at h
  · next htx =>
    cases h
    rw [if_pos htx]
    exact ⟨.refl c i _, htx, rfl, .inl htx, fun hno => absurd htx hno⟩
  · next htx =>
    split at h
    · cases h
    · next hpush =>
      cases h
      rw [if_neg htx]
      obtain ⟨hhalf, hmem, hpos⟩ := @halfFlush_of_push c lib _ i _
        { lib.socks i with txBumpPending := 0 } hctx hpush rfl ⟨rfl, rfl⟩
      refine ⟨hhalf, ?_, ?_, .inr hpos, fun _ => hmem⟩
      · rw [TcpLib.setSock_socks]
      · rw [TcpLib.setSock_socks]

theorem flushRxBump_none (h : flushRxBump lib c i = none) :
    (lib.socks i).rxBumpPending ≠ 0 ∧ fastRoom lib c (lib.socks i).core.toNat = 0 := by
  unfold flushRxBump at h
  dsimp only at h
  split at h
  · cases h
  · next hrx =>
    split at h
    · next hfull => exact ⟨hrx, libEnqueue_none hfull⟩
    · cases h

theorem flushRxBump_some (hctx : (lib.socks i).ctx = some c)
    (h : flushRxBump lib c i = some lib') :
    HalfFlush c i (if (lib.socks i).rxBumpPending = 0 then 0 else 1) lib lib' ∧
      (lib'.socks i).rxBumpPending = 0 ∧
      (lib'.socks i).txBumpPending = (lib.socks i).txBumpPending := by
  unfold flushRxBump at h
  dsimp only at h
  split at h
  · next hrx =>
    cases h
    rw [if_pos hrx]
    exact ⟨.refl c i _, hrx, rfl⟩
  · next hrx =>
    split at h
    · cases h
    · next hpush =>
      cases h
      rw [if_neg hrx]
      obtain ⟨hhalf, -, -⟩ := @halfFlush_of_push c lib _ i _
        { lib.socks i with rxBumpPending := 0 } hctx hpush rfl ⟨rfl, rfl⟩
      refine ⟨hhalf, ?_, ?_⟩
      · rw [TcpLib.setSock_socks]
      · rw [TcpLib.setSock_socks]

/-- At the label `out` a socket with pending bytes is marked. -/
theorem flushOut_spec (h : Lists lib c cur again rest) (hctx : (lib.socks i).ctx = some c)
    (hfd : (lib.socks i).fd = i) :
    FlushOf c lib (flushOut lib c i) ∧ SameBumps c lib (flushOut lib c i) ∧
      ((lib.socks i).txBumpPending ≠ 0 ∨ (lib.socks i).rxBumpPending ≠ 0 →
        ((flushOut lib c i).socks i).bumpPending = true) ∧
      ∃ again', Lists (flushOut lib c i) c cur again' rest := by
  unfold flushOut
  dsimp only
  split
  · obtain ⟨hflush, hsame, hmark, hlists⟩ := sockMarkBump_spec h hctx hfd
    exact ⟨hflush, hsame, fun _ => hmark, hlists⟩
  · next hno => exact ⟨.refl c lib, .refl c lib, fun hp => absurd hp hno, again, h⟩

/-- What flushing socket `i` does to the counters and the queues. -/
structure Visited (c i : Nat) (lib lib' : TcpLib) : Prop where
  flush : FlushOf c lib lib'
  other : ∀ j, j ≠ i → (lib'.socks j).txBumpPending = (lib.socks j).txBumpPending ∧
    (lib'.socks j).rxBumpPending = (lib.socks j).rxBumpPending
  room : ∀ core, fastRoom lib' c core = fastRoom lib c core -
    if (lib.socks i).core.toNat = core then bumpEntries (lib.socks i) else 0
  tx : (lib'.socks i).txBumpPending = 0 ↔
    (lib.socks i).txBumpPending = 0 ∨ 0 < fastRoom lib c (lib.socks i).core.toNat
  sent : (lib.socks i).txBumpPending ≠ 0 → (lib'.socks i).txBumpPending = 0 →
    txAnnouncement (lib.socks i) ∈ ((lib'.ctxs c).appFastQs (lib.socks i).core.toNat).items
  pending : (lib'.socks i).txBumpPending ≠ 0 ∨ (lib'.socks i).rxBumpPending ≠ 0 →
    (lib'.socks i).bumpPending = true
  marked : ∀ j, (lib.socks j).bumpPending = true → (lib'.socks j).bumpPending = true

/-- **`sock_flush_bumps`** pushes what fits and marks the socket when
something is left. -/
theorem sockFlushBumps_spec (h : Lists lib c cur again rest) (hctx : (lib.socks i).ctx = some c)
    (hfd : (lib.socks i).fd = i) :
    Visited c i lib (sockFlushBumps lib c i) ∧
      ∃ again', Lists (sockFlushBumps lib c i) c cur again' rest := by
  have hactive : ¬ ((lib.socks i).ctx ≠ some c ∨ (lib.socks i).fd = sockInactive) := by
    rw [hctx, hfd]
    unfold sockInactive
    simp only [ne_eq, not_true_eq_false, false_or]
    omega
  unfold sockFlushBumps
  dsimp only
  rw [if_neg hactive]
  cases htx : flushTxBump lib c i with
  | none =>
    -- no room at all
    obtain ⟨hne, hfull⟩ := flushTxBump_none htx
    obtain ⟨hflush, hsame, hmark, hlists⟩ := flushOut_spec h hctx hfd
    refine ⟨⟨hflush, fun j _ => ⟨hsame.tx j, hsame.rx j⟩, fun core => ?_, ?_, fun _ hz => ?_,
      fun _ => hmark (.inl hne), hsame.marked⟩, hlists⟩
    · rw [hsame.room core]
      split
      · next hk => rw [← hk, hfull, Nat.zero_sub]
      · rw [Nat.sub_zero]
    · rw [hsame.tx i, hfull]
      simp
    · rw [hsame.tx i] at hz
      exact absurd hz hne
  | some lib₁ =>
    obtain ⟨h₁, hz₁, hrx₁, hfit, hsent⟩ := flushTxBump_some hctx htx
    have hlists₁ := h.congr h₁.ends h₁.links
    have hctx₁ : (lib₁.socks i).ctx = some c := (h₁.links i).2.2.trans hctx
    have hfd₁ : (lib₁.socks i).fd = i := (h₁.flush.fd i).trans hfd
    have hcore₁ : (lib₁.socks i).core.toNat = (lib.socks i).core.toNat := by
      rw [h₁.flush.core i]
    dsimp only
    cases hrx : flushRxBump lib₁ c i with
    | none =>
      -- the second entry did not fit
      obtain ⟨hne, hfull⟩ := flushRxBump_none hrx
      obtain ⟨hflush, hsame, hmark, hlists⟩ := flushOut_spec hlists₁ hctx₁ hfd₁
      refine ⟨⟨h₁.flush.trans hflush, fun j hj => ?_, fun core => ?_, ?_, fun hp _ => ?_,
        fun _ => hmark (.inr hne), fun j hj => hsame.marked j ?_⟩, hlists⟩
      · rw [hsame.tx j, hsame.rx j]
        exact h₁.other j hj
      · rw [hsame.room core, h₁.room core]
        split
        · next hk =>
          have hzero := h₁.room core
          rw [← hk, ← hcore₁, hfull, hcore₁, if_pos rfl, hk] at hzero
          unfold bumpEntries
          omega
        · rfl
      · rw [hsame.tx i, hz₁]
        exact ⟨fun _ => hfit, fun _ => rfl⟩
      · exact (hflush.kept _).mem (hsent hp)
      · rw [(h₁.links j).2.1]
        exact hj
    | some lib₂ =>
      obtain ⟨h₂, hz₂, htx₂⟩ := flushRxBump_some hctx₁ hrx
      have hlists₂ := hlists₁.congr h₂.ends h₂.links
      obtain ⟨hflush, hsame, hmark, hlists⟩ := flushOut_spec hlists₂
        ((h₂.links i).2.2.trans hctx₁) ((h₂.flush.fd i).trans hfd₁)
      refine ⟨⟨(h₁.flush.trans h₂.flush).trans hflush, fun j hj => ?_, fun core => ?_, ?_,
        fun hp _ => ?_, fun hp => ?_, fun j hj => hsame.marked j ?_⟩, hlists⟩
      · rw [hsame.tx j, hsame.rx j, (h₂.other j hj).1, (h₂.other j hj).2]
        exact h₁.other j hj
      · rw [hsame.room core, h₂.room core, h₁.room core, hcore₁, hrx₁]
        unfold bumpEntries
        split
        · rw [Nat.sub_sub]
        · rfl
      · rw [hsame.tx i, htx₂, hz₁]
        exact ⟨fun _ => hfit, fun _ => rfl⟩
      · exact (hflush.kept _).mem ((h₂.flush.kept _).mem (hsent hp))
      · rw [hsame.tx i, hsame.rx i] at hp
        exact hmark hp
      · rw [(h₂.links j).2.1, (h₁.links j).2.1]
        exact hj

/-! ## Flushing a list -/

/-- What a walk over the list `rest` does. -/
structure Walked (c : Nat) (rest : List Int) (lib lib' : TcpLib) : Prop where
  flush : FlushOf c lib lib'
  other : ∀ j : Nat, (j : Int) ∉ rest →
    (lib'.socks j).txBumpPending = (lib.socks j).txBumpPending ∧
      (lib'.socks j).rxBumpPending = (lib.socks j).rxBumpPending ∧
      ((lib.socks j).bumpPending = true → (lib'.socks j).bumpPending = true)
  room : ∀ core, fastRoom lib' c core = fastRoom lib c core - needed lib core rest
  tx : ∀ (before : List Int) (j : Nat) (after : List Int), rest = before ++ (j : Int) :: after →
    (lib.socks j).fd = j → ((lib'.socks j).txBumpPending = 0 ↔ (lib.socks j).txBumpPending = 0 ∨
      needed lib (lib.socks j).core.toNat before < fastRoom lib c (lib.socks j).core.toNat)
  sent : ∀ j : Nat, (lib.socks j).txBumpPending ≠ 0 → (lib'.socks j).txBumpPending = 0 →
    txAnnouncement (lib.socks j) ∈ ((lib'.ctxs c).appFastQs (lib.socks j).core.toNat).items
  pending : ∀ j : Nat, (j : Int) ∈ rest → (lib.socks j).fd = j →
    (lib'.socks j).txBumpPending ≠ 0 ∨ (lib'.socks j).rxBumpPending ≠ 0 →
    (lib'.socks j).bumpPending = true

/-- The first socket of the second list is taken off it. -/
theorem Lists.take {x : Int} (h : Lists lib c cur again (x :: rest)) :
    cur = x ∧ 0 ≤ x ∧ (lib.socks x.toNat).ctx = some c ∧
      Lists (lib.setSock x.toNat
        { lib.socks x.toNat with bumpPending := false, bumpNext := tcpBumpNone })
        c (lib.socks x.toNat).bumpNext again rest := by
  have hx : 0 ≤ x := h.nonneg x (by simp)
  have hcur : cur = x := h.older.seg.1
  have hmem := (h.mem x.toNat).mp (by rw [Int.toNat_of_nonneg hx]; simp)
  have hnodup := List.nodup_append.mp h.nodup
  have hagain : x ∉ again := by
    intro hm
    exact hnodup.2.2 x hm x (by simp) rfl
  have hrest : x ∉ rest := (List.nodup_cons.mp hnodup.2.1).1
  have hnext : ∀ y ∈ again ++ rest, bumpNextOf (lib.setSock x.toNat
      { lib.socks x.toNat with bumpPending := false, bumpNext := tcpBumpNone }) y =
      bumpNextOf lib y := by
    intro y hy
    have hy0 : 0 ≤ y := by
      rcases List.mem_append.mp hy with hy | hy
      · exact h.nonneg y (List.mem_append_left _ hy)
      · exact h.nonneg y (List.mem_append_right _ (List.mem_cons_of_mem _ hy))
    rw [bumpNextOf_setSock _ _ _ hy0, if_neg]
    rw [Int.toNat_of_nonneg hx]
    intro he
    rcases List.mem_append.mp hy with hy | hy
    · exact hagain (he ▸ hy)
    · exact hrest (he ▸ hy)
  refine ⟨hcur, hx, hmem.1, ?_, h.last, ?_, ?_, fun i => ?_, fun y hy => h.nonneg y ?_⟩
  · exact chain_congr (fun y hy => hnext y (List.mem_append_left _ hy)) h.pending
  · exact chain_congr (fun y hy => hnext y (List.mem_append_right _ hy)) (chain_tail h.older)
  · refine List.nodup_append.mpr ⟨hnodup.1, (List.nodup_cons.mp hnodup.2.1).2, ?_⟩
    intro a ha b hb
    exact hnodup.2.2 a ha b (List.mem_cons_of_mem _ hb)
  · by_cases hi : i = x.toNat
    · have hix : (i : Int) = x := by omega
      rw [hi, TcpLib.setSock_socks, Int.toNat_of_nonneg hx]
      simp [hagain, hrest]
    · have hix : (i : Int) ≠ x := by omega
      rw [TcpLib.setSock_socks_ne _ _ hi, ← h.mem i]
      simp [hix]
  · rcases List.mem_append.mp hy with hy | hy
    · exact List.mem_append_left _ hy
    · exact List.mem_append_right _ (List.mem_cons_of_mem _ hy)

/-- The lists when a flush starts: the old one is cut off, the new one is
empty. -/
theorem Lists.cut (h : Lists lib c tcpBumpNone rest []) :
    Lists (lib.setCtx c
      { lib.ctxs c with bumpHead := tcpBumpNone, bumpTail := tcpBumpNone }) c
      (lib.ctxs c).bumpHead [] rest := by
  refine ⟨?_, ?_, h.pending, by simpa using h.nodup, fun j => ?_, fun x hx => ?_⟩
  · rw [TcpLib.setCtx_ctxs]
    exact ⟨rfl, by simp⟩
  · rw [TcpLib.setCtx_ctxs]
    rfl
  · have hj := h.mem j
    rw [List.append_nil] at hj
    exact hj
  · exact h.nonneg x (by simpa using hx)

/-- The loop of `tcp_flush_bumps` stops at the end of a list. -/
theorem flushLoop_none (n : Nat) (lib : TcpLib) : flushLoop c n tcpBumpNone lib = lib := by
  cases n with
  | zero => rfl
  | succ n =>
    unfold flushLoop
    rw [if_pos rfl]

/-- One round of the loop: the socket is taken off its list and flushed. -/
def flushRound (lib : TcpLib) (c i : Nat) : TcpLib :=
  let sock := lib.socks i
  let lib := lib.setSock i { sock with bumpPending := false, bumpNext := tcpBumpNone }
  if sock.ctx = some c ∧ sock.fd ≠ sockInactive ∧
      (sock.txBumpPending ≠ 0 ∨ sock.rxBumpPending ≠ 0) then
    sockFlushBumps lib c i
  else lib

theorem flushLoop_succ {n : Nat} (hcur : cur ≠ tcpBumpNone) :
    flushLoop c (n + 1) cur lib =
      flushLoop c n (lib.socks cur.toNat).bumpNext (flushRound lib c cur.toNat) := by
  rw [flushLoop, if_neg hcur]
  rfl

/-- The socket taken off its list, before the flush. -/
theorem walked_take (hctx : (lib.socks i).ctx = some c) {s : TcpSocketLib}
    (hs : s = { lib.socks i with bumpPending := false, bumpNext := tcpBumpNone })
    (hidle : (lib.socks i).fd = i → bumpEntries (lib.socks i) = 0)
    (hfd : (lib.socks i).fd = i ∨ (lib.socks i).fd = sockInactive) :
    Walked c [(i : Int)] lib (lib.setSock i s) := by
  have hcounts : ∀ j, ((lib.setSock i s).socks j).txBumpPending = (lib.socks j).txBumpPending ∧
      ((lib.setSock i s).socks j).rxBumpPending = (lib.socks j).rxBumpPending := by
    intro j
    by_cases hji : j = i
    · rw [hji, TcpLib.setSock_socks, hs]
      exact ⟨rfl, rfl⟩
    · rw [TcpLib.setSock_socks_ne _ _ hji]
      exact ⟨rfl, rfl⟩
  refine ⟨flushOf_setSock hctx (by rw [hs]; rfl), fun j hj => ?_, fun core => ?_,
    fun before j after hsplit hfdj => ?_, fun j hne hz => ?_, fun j hj hfdj hne => ?_⟩
  · rw [List.mem_singleton] at hj
    refine ⟨(hcounts j).1, (hcounts j).2, fun hp => ?_⟩
    rw [TcpLib.setSock_socks_ne _ _ (by omega)]
    exact hp
  · have hzero : needed lib core [(i : Int)] = 0 := by
      rw [needed_cons, Int.toNat_natCast]
      rcases hfd with hfd | hfd
      · rw [hidle hfd]
        simp [needed]
      · rw [if_neg (by simp [hfd])]
        simp [needed]
    rw [hzero, Nat.sub_zero]
    rfl
  · -- nothing was pending
    rw [(hcounts j).1]
    refine ⟨Or.inl, fun hor => ?_⟩
    have hji : j = i := by
      have hm : (j : Int) ∈ [(i : Int)] := by simp [hsplit]
      rw [List.mem_singleton] at hm
      omega
    rw [hji] at hfdj ⊢
    have hent := hidle hfdj
    unfold bumpEntries at hent
    refine Classical.byContradiction fun htx => ?_
    rw [if_neg htx] at hent
    omega
  · rw [(hcounts j).1] at hz
    exact absurd hz hne
  · rw [List.mem_singleton] at hj
    have hji : j = i := by omega
    rw [(hcounts j).1, (hcounts j).2, hji] at hne
    rw [hji] at hfdj
    have hent := hidle hfdj
    unfold bumpEntries at hent
    rcases hne with hne | hne
    · rw [if_neg hne] at hent
      omega
    · rw [if_neg hne] at hent
      omega

/-- **One round** is a walk over one socket, and keeps the lists. -/
theorem flushRound_spec {x : Int} (h : Lists lib c cur again (x :: rest))
    (hfd : ∀ j : Nat, (lib.socks j).fd = j ∨ (lib.socks j).fd = sockInactive) :
    Walked c [x] lib (flushRound lib c x.toNat) ∧
      ∃ again', Lists (flushRound lib c x.toNat) c (lib.socks x.toNat).bumpNext again' rest := by
  obtain ⟨-, hx, hctx, hlists⟩ := h.take
  obtain ⟨i, rfl⟩ := Int.eq_ofNat_of_zero_le hx
  rw [Int.toNat_natCast] at hctx hlists ⊢
  unfold flushRound
  dsimp only
  generalize hs : { lib.socks i with bumpPending := false, bumpNext := tcpBumpNone } = s at hlists ⊢
  split
  · next hflush =>
    have hfdi : (lib.socks i).fd = i := (hfd i).resolve_right hflush.2.1
    have hctx₁ : ((lib.setSock i s).socks i).ctx = some c := by
      rw [TcpLib.setSock_socks, ← hs]
      exact hctx
    have hfd₁ : ((lib.setSock i s).socks i).fd = i := by
      rw [TcpLib.setSock_socks, ← hs]
      exact hfdi
    obtain ⟨hv, hlists'⟩ := sockFlushBumps_spec hlists hctx₁ hfd₁
    refine ⟨?_, hlists'⟩
    have htake : FlushOf c lib (lib.setSock i s) := flushOf_setSock hctx (by rw [← hs]; rfl)
    have hsock : (lib.setSock i s).socks i = s := TcpLib.setSock_socks lib i s
    have hsame : s.txBumpPending = (lib.socks i).txBumpPending ∧
        s.rxBumpPending = (lib.socks i).rxBumpPending ∧ s.core = (lib.socks i).core ∧
        bumpEntries s = bumpEntries (lib.socks i) ∧
        txAnnouncement s = txAnnouncement (lib.socks i) := by
      rw [← hs]
      exact ⟨rfl, rfl, rfl, rfl, rfl⟩
    obtain ⟨hstx, hsrx, hscore, hsent, hsann⟩ := hsame
    have hvroom := hv.room
    have hvtx := hv.tx
    have hvsent := hv.sent
    rw [hsock, hstx, hscore] at hvtx
    rw [hsock, hstx, hscore, hsann] at hvsent
    rw [hsock, hscore, hsent] at hvroom
    refine ⟨htake.trans hv.flush, fun j hj => ?_, fun core => ?_,
      fun before j after hsplit hfdj => ?_, fun j hne hz => ?_, fun j hj _ hne => ?_⟩
    · rw [List.mem_singleton] at hj
      have hji : j ≠ i := by omega
      rw [(hv.other j hji).1, (hv.other j hji).2, TcpLib.setSock_socks_ne _ _ hji]
      refine ⟨rfl, rfl, fun hp => hv.marked j ?_⟩
      rw [TcpLib.setSock_socks_ne _ _ hji]
      exact hp
    · rw [hvroom core, needed_cons, Int.toNat_natCast]
      have hact : (lib.socks i).fd ≠ sockInactive := hflush.2.1
      simp only [hact, ne_eq, not_false_eq_true, true_and]
      rfl
    · have hm : (j : Int) ∈ [(i : Int)] := by simp [hsplit]
      rw [List.mem_singleton] at hm
      have hji : j = i := by omega
      have hbefore : before = [] := by
        have hlen := congrArg List.length hsplit
        simp only [List.length_append, List.length_cons, List.length_nil] at hlen
        exact List.length_eq_zero_iff.mp (by omega)
      rw [hji, hbefore, hvtx]
      rfl
    · by_cases hji : j = i
      · rw [hji] at hne hz ⊢
        exact hvsent hne hz
      · rw [(hv.other j hji).1, TcpLib.setSock_socks_ne _ _ hji] at hz
        exact absurd hz hne
    · rw [List.mem_singleton] at hj
      have hji : j = i := by omega
      rw [hji] at hne ⊢
      exact hv.pending hne
  · next hno =>
    refine ⟨walked_take hctx hs.symm (fun hfdi => ?_) (hfd i), again, hlists⟩
    have hact : (lib.socks i).fd ≠ sockInactive := by
      rw [hfdi]
      unfold sockInactive
      omega
    simp only [hctx, hact, ne_eq, not_false_eq_true, true_and, not_or, Decidable.not_not] at hno
    simp [bumpEntries, hno.1, hno.2]

theorem Walked.refl (c : Nat) (lib : TcpLib) : Walked c [] lib lib := by
  refine ⟨.refl c lib, fun _ _ => ⟨rfl, rfl, id⟩, fun core => ?_, fun before j after hsplit => ?_,
    fun j hne hz => absurd hz hne, fun j hj => ?_⟩
  · simp [needed]
  · simp at hsplit
  · simp at hj

/-- A walk over one socket and one over the rest. -/
theorem Walked.cons {x : Int} (h₁ : Walked c [x] lib₁ lib₂) (h₂ : Walked c rest lib₂ lib₃)
    (hnodup : (x :: rest).Nodup) (hnonneg : ∀ y ∈ x :: rest, 0 ≤ y) :
    Walked c (x :: rest) lib₁ lib₃ := by
  have hx := (List.nodup_cons.mp hnodup).1
  -- the first round changes nothing the sums over the rest read
  have hneed : ∀ core fds, (∀ y ∈ fds, y ∈ rest) → needed lib₂ core fds = needed lib₁ core fds := by
    intro core fds hsub
    refine needed_congr core fun y hy => ⟨h₁.flush.fd _, h₁.flush.core _, ?_⟩
    have hy0 := hnonneg y (List.mem_cons_of_mem _ (hsub y hy))
    have hyx : (y.toNat : Int) ∉ [x] := by
      rw [List.mem_singleton, Int.toNat_of_nonneg hy0]
      intro he
      exact hx (he ▸ hsub y hy)
    unfold bumpEntries
    rw [(h₁.other _ hyx).1, (h₁.other _ hyx).2.1]
  have hone : ∀ core fds,
      needed lib₁ core (x :: fds) = needed lib₁ core [x] + needed lib₁ core fds := by
    intro core fds
    rw [needed_cons, needed_cons]
    simp [needed]
  refine ⟨h₁.flush.trans h₂.flush, fun j hj => ?_, fun core => ?_,
    fun before j after hsplit hfd => ?_, fun j hne hz => ?_, fun j hj hfd hne => ?_⟩
  · rw [List.mem_cons, not_or] at hj
    obtain ⟨htx₁, hrx₁, hmark₁⟩ := h₁.other j (by simp [hj.1])
    obtain ⟨htx₂, hrx₂, hmark₂⟩ := h₂.other j hj.2
    exact ⟨htx₂.trans htx₁, hrx₂.trans hrx₁, fun hp => hmark₂ (hmark₁ hp)⟩
  · rw [h₂.room core, h₁.room core, hneed core rest fun _ h => h, hone core rest, Nat.sub_sub]
  · cases before with
    | nil =>
      rw [List.nil_append] at hsplit
      obtain ⟨rfl, rfl⟩ := List.cons.inj hsplit
      rw [(h₂.other j hx).1]
      exact h₁.tx [] j [] rfl hfd
    | cons y before =>
      rw [List.cons_append] at hsplit
      obtain ⟨rfl, rfl⟩ := List.cons.inj hsplit
      have hjx : (j : Int) ∉ [x] := by
        rw [List.mem_singleton]
        intro he
        exact hx (by simp [he])
      have htx := h₂.tx before j after rfl ((h₁.flush.fd j).trans hfd)
      rw [(h₁.other j hjx).1, h₁.flush.core j, h₁.room,
        hneed _ before fun y hy => by simp [hy]] at htx
      rw [htx, Nat.lt_sub_iff_add_lt', hone _ before]
  · by_cases hz₂ : (lib₂.socks j).txBumpPending = 0
    · exact (h₂.flush.kept _).mem (h₁.sent j hne hz₂)
    · have hjx : (j : Int) ∉ [x] := by
        intro hm
        rw [List.mem_singleton] at hm
        rw [(h₂.other j (by rw [hm]; exact hx)).1] at hz
        exact hz₂ hz
      have hsent := h₂.sent j hz₂ hz
      rw [h₁.flush.core j] at hsent
      have hann : txAnnouncement (lib₂.socks j) = txAnnouncement (lib₁.socks j) := by
        unfold txAnnouncement
        rw [h₁.flush.sockId j, h₁.flush.remotePort j, h₁.flush.remoteIp j, (h₁.other j hjx).1]
      rw [hann] at hsent
      exact hsent
  · rcases List.mem_cons.mp hj with hj | hj
    · have hoff : (j : Int) ∉ rest := by
        rw [hj]
        exact hx
      obtain ⟨htx, hrx, hmark⟩ := h₂.other j hoff
      rw [htx, hrx] at hne
      exact hmark (h₁.pending j (by simp [hj]) hfd hne)
    · exact h₂.pending j hj ((h₁.flush.fd j).trans hfd) hne

/-- **The loop of `tcp_flush_bumps`** walks over its list. -/
theorem flushLoop_walked {n : Nat} (h : Lists lib c cur again rest) (hn : rest.length ≤ n)
    (hfd : ∀ j : Nat, (lib.socks j).fd = j ∨ (lib.socks j).fd = sockInactive) :
    Walked c rest lib (flushLoop c n cur lib) ∧
      ∃ again', Lists (flushLoop c n cur lib) c tcpBumpNone again' [] := by
  induction rest generalizing lib cur again n with
  | nil =>
    have hcur : cur = tcpBumpNone := h.older.seg
    rw [hcur, flushLoop_none]
    rw [hcur] at h
    exact ⟨.refl c lib, again, h⟩
  | cons x rest ih =>
    cases n with
    | zero => simp at hn
    | succ n =>
      obtain ⟨hcur, hx, -, -⟩ := h.take
      have hne : cur ≠ tcpBumpNone := by
        rw [hcur]
        unfold tcpBumpNone
        omega
      obtain ⟨h₁, again', hlists⟩ := flushRound_spec h hfd
      rw [flushLoop_succ hne, hcur]
      obtain ⟨h₂, hend⟩ := ih hlists (by simpa using hn) (fun j => by
        rw [h₁.flush.fd j]
        exact hfd j)
      refine ⟨h₁.cons h₂ (List.nodup_append.mp h.nodup).2.1 fun y hy => ?_, hend⟩
      exact h.nonneg y (List.mem_append_right _ hy)

end

end Chamelio.Tcp
