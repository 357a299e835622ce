import Chamelio.Lib.IndexSet
import Chamelio.Lib.Run
import Chamelio.Tcp.LibClose
import Chamelio.Udp.Setsockopt

/-!
# Wait sets (`protos/tcp/lib/tcp_lib.c`, `protos/udp/lib/udp_lib.c`)

The sockets an application waits for: `sockfds` has their descriptors without
holes, `entries` the events, the data and the socket of each, and where in
`sockfds` it is. The two libraries have the same functions, up to how a
descriptor is looked up.

`wait_sets_consistent` is the result. Whatever calls are made, with whatever
descriptors and the library's sockets in whatever state, `sockfds` and the
indices of `entries` stay inverse to each other (`WaitOk`), a call that fails
changes nothing, and one that succeeds adds, changes or takes out its own
descriptor (`CallDoes`). The array itself is reordered by a deletion, which
moves the last descriptor into the hole; that is the library fact
`Lib.Indexed.remove`.

Mirroring notes:
- A `struct tcp_socket_lib *` is the socket's number in `tcp->socks`. Each call
  has the library as it is at that time: between two calls sockets open and
  close, and no call here looks at anything else of the library.
- `malloc` does not clear `sockfds`: the set starts with what is in memory.
- A call with `NULL` for the set has nothing to change and is left out, as is
  the library before `tcp_init`, which has no set.
- `lookup_sock` has no other error than `EBADF` for a library and a context that
  exist.
- `nfds` is an `int` that a deletion decrements before use. It is a natural
  number here; that it is not 0 then is part of what a deletion does.
-/

namespace Chamelio.Util

open Chamelio.Lib

/-- `MAX_SOCKETS`, the same in both libraries. -/
def maxSocketsLib : Nat := 8192

/-- `struct tcp_wait_entry`, `struct udp_wait_entry`. -/
structure WaitEntry where
  events : UInt32
  data : UInt64
  index : Int
  sock : Option Nat

/-- `struct tcp_wait`, `struct udp_wait`. -/
structure Wait where
  ctx : Nat
  nfds : Nat
  sockfds : Nat → Int
  entries : Int → WaitEntry

/-- `errno` where a call returns `-1`. -/
inductive WaitErrno
  | badf
  | exist
  | noent
  deriving DecidableEq

/-- `tcp_wait_new`, `udp_wait_new`. -/
def waitNew (mem : Nat → Int) (ctx : Nat) : Wait :=
  { ctx
    nfds := 0
    sockfds := mem
    entries := fun _ => { events := 0, data := 0, index := -1, sock := none } }

def Wait.setEntry (w : Wait) (fd : Int) (f : WaitEntry → WaitEntry) : Wait :=
  { w with entries := Function.update w.entries fd (f (w.entries fd)) }

/-- The writes of `wait_add`. -/
def Wait.insert (w : Wait) (sockfd : Int) (events : UInt32) (data : UInt64) (sock : Nat) : Wait :=
  let w := w.setEntry sockfd fun _ => { events, data, index := w.nfds, sock := some sock }
  { w with
    sockfds := Function.update w.sockfds w.nfds sockfd
    nfds := w.nfds + 1 }

/-- The writes of `wait_del`, with the index of the descriptor. -/
def Wait.remove (w : Wait) (sockfd idx : Int) : Wait :=
  let nfds := w.nfds - 1
  let lastFd := w.sockfds nfds
  let w := { w with nfds, sockfds := Function.update w.sockfds idx.toNat lastFd }
  -- the last descriptor may be `sockfd` itself: its index has to end up as -1
  let w := w.setEntry lastFd fun e => { e with index := idx }
  w.setEntry sockfd fun _ => { events := 0, data := 0, index := -1, sock := none }

/-- `tcp_wait_add` and `udp_wait_add` behind `lookup_sock`. The second
component is `none` where the call returns 0. -/
def waitAdd (sock : Option Nat) (w : Wait) (sockfd : Int) (events : UInt32) (data : UInt64) :
    Wait × Option WaitErrno :=
  match sock with
  | none => (w, some .badf)
  | some sock =>
    if (w.entries sockfd).index ≠ -1 then (w, some .exist)
    else (w.insert sockfd events data sock, none)

/-- `tcp_wait_mod` and `udp_wait_mod` behind `lookup_sock`. -/
def waitMod (sock : Option Nat) (w : Wait) (sockfd : Int) (events : UInt32) (data : UInt64) :
    Wait × Option WaitErrno :=
  match sock with
  | none => (w, some .badf)
  | some sock =>
    if (w.entries sockfd).index = -1 then (w, some .noent)
    else (w.setEntry sockfd fun e => { e with events, data, sock := some sock }, none)

/-- `tcp_wait_del` and `udp_wait_del`. -/
def waitDel (w : Wait) (sockfd : Int) : Wait × Option WaitErrno :=
  if sockfd < 0 ∨ sockfd ≥ maxSocketsLib then (w, some .badf)
  else
    let idx := (w.entries sockfd).index
    if idx = -1 then (w, some .noent) else (w.remove sockfd idx, none)

/-! ## The two libraries -/

def tcpWaitAdd (lib : Tcp.TcpLib) (w : Wait) (sockfd : Int) (events : UInt32) (data : UInt64) :
    Wait × Option WaitErrno :=
  waitAdd (Tcp.lookupSock lib w.ctx sockfd) w sockfd events data

def tcpWaitMod (lib : Tcp.TcpLib) (w : Wait) (sockfd : Int) (events : UInt32) (data : UInt64) :
    Wait × Option WaitErrno :=
  waitMod (Tcp.lookupSock lib w.ctx sockfd) w sockfd events data

def tcpWaitDel (w : Wait) (sockfd : Int) : Wait × Option WaitErrno := waitDel w sockfd

def udpWaitAdd (lib : Udp.UdpFdLib) (w : Wait) (sockfd : Int) (events : UInt32) (data : UInt64) :
    Wait × Option WaitErrno :=
  waitAdd (Udp.lookupSock lib w.ctx sockfd) w sockfd events data

def udpWaitMod (lib : Udp.UdpFdLib) (w : Wait) (sockfd : Int) (events : UInt32) (data : UInt64) :
    Wait × Option WaitErrno :=
  waitMod (Udp.lookupSock lib w.ctx sockfd) w sockfd events data

def udpWaitDel (w : Wait) (sockfd : Int) : Wait × Option WaitErrno := waitDel w sockfd

/-- A call on a set, with the library at that time. -/
inductive WaitCall (L : Type)
  | add (lib : L) (sockfd : Int) (events : UInt32) (data : UInt64)
  | mod (lib : L) (sockfd : Int) (events : UInt32) (data : UInt64)
  | del (sockfd : Int)

def tcpWaitCall (w : Wait) : WaitCall Tcp.TcpLib → Wait × Option WaitErrno
  | .add lib sockfd events data => tcpWaitAdd lib w sockfd events data
  | .mod lib sockfd events data => tcpWaitMod lib w sockfd events data
  | .del sockfd => tcpWaitDel w sockfd

def udpWaitCall (w : Wait) : WaitCall Udp.UdpFdLib → Wait × Option WaitErrno
  | .add lib sockfd events data => udpWaitAdd lib w sockfd events data
  | .mod lib sockfd events data => udpWaitMod lib w sockfd events data
  | .del sockfd => udpWaitDel w sockfd

/-! ## What a set says -/

/-- The descriptor is one of `sockfds[0..nfds)`. -/
def Wait.Member (w : Wait) (fd : Int) : Prop := InSet w.sockfds w.nfds fd

/-- **The arrays of a set fit together**: `sockfds` has no descriptor twice, it
has one at place `i` just where the index is `i`, and the index of every other
descriptor is -1. -/
structure WaitOk (w : Wait) : Prop where
  nodup : ∀ i j, i < w.nfds → j < w.nfds → w.sockfds i = w.sockfds j → i = j
  index : ∀ fd (i : Nat), i < w.nfds ∧ w.sockfds i = fd ↔ (w.entries fd).index = i
  absent : ∀ fd, ¬ w.Member fd → (w.entries fd).index = -1
  range : ∀ i, i < w.nfds → 0 ≤ w.sockfds i ∧ w.sockfds i < maxSocketsLib
  nfds : w.nfds ≤ maxSocketsLib

/-- Nothing is different for the descriptors other than `fd`: membership,
events, data and socket. -/
structure OwnOnly (w w' : Wait) (fd : Int) : Prop where
  ctx : w'.ctx = w.ctx
  member : ∀ x, x ≠ fd → (w'.Member x ↔ w.Member x)
  events : ∀ x, x ≠ fd → (w'.entries x).events = (w.entries x).events
  data : ∀ x, x ≠ fd → (w'.entries x).data = (w.entries x).data
  sock : ∀ x, x ≠ fd → (w'.entries x).sock = (w.entries x).sock

/-- What the entry of a descriptor has besides the index. -/
def Wait.Holds (w : Wait) (fd : Int) (events : UInt32) (data : UInt64) (sock : Option Nat) :
    Prop :=
  (w.entries fd).events = events ∧ (w.entries fd).data = data ∧ (w.entries fd).sock = sock

/-- **What a call does**, given what `lookup_sock` finds for it: nothing if it
fails, and to its own descriptor alone if it succeeds. -/
def CallDoes {L : Type} (lookup : L → Nat → Int → Option Nat) (w : Wait) (call : WaitCall L)
    (r : Wait × Option WaitErrno) : Prop :=
  (r.2 ≠ none → r.1 = w) ∧
  match call with
  | .add lib fd events data =>
    (r.2 = none ↔ lookup lib w.ctx fd ≠ none ∧ ¬ w.Member fd) ∧
      (r.2 = none → r.1.Member fd ∧ r.1.Holds fd events data (lookup lib w.ctx fd) ∧
        r.1.nfds = w.nfds + 1 ∧ OwnOnly w r.1 fd)
  | .mod lib fd events data =>
    (r.2 = none ↔ lookup lib w.ctx fd ≠ none ∧ w.Member fd) ∧
      (r.2 = none → r.1.Member fd ∧ r.1.Holds fd events data (lookup lib w.ctx fd) ∧
        r.1.nfds = w.nfds ∧ OwnOnly w r.1 fd)
  | .del fd =>
    (r.2 = none ↔ w.Member fd) ∧
      (r.2 = none → ¬ r.1.Member fd ∧ r.1.Holds fd 0 0 none ∧
        r.1.nfds + 1 = w.nfds ∧ OwnOnly w r.1 fd)

/-! ## The index table -/

/-- The indices of the entries. -/
def Wait.indices (w : Wait) : Int → Int := fun fd => (w.entries fd).index

theorem Wait.setEntry_indices (w : Wait) (fd : Int) (f : WaitEntry → WaitEntry) :
    (w.setEntry fd f).indices = Function.update w.indices fd (f (w.entries fd)).index := by
  funext x
  unfold Wait.indices Wait.setEntry
  by_cases hx : x = fd
  · rw [hx]
    simp only [Function.update_self]
  · simp only [Function.update_of_ne hx]

@[simp] theorem Wait.setEntry_self (w : Wait) (fd : Int) (f : WaitEntry → WaitEntry) :
    (w.setEntry fd f).entries fd = f (w.entries fd) :=
  Function.update_self ..

theorem Wait.setEntry_of_ne (w : Wait) {fd x : Int} (hx : x ≠ fd) (f : WaitEntry → WaitEntry) :
    (w.setEntry fd f).entries x = w.entries x :=
  Function.update_of_ne hx ..

/-- An edit of an entry that keeps the index keeps all of them. -/
theorem Wait.setEntry_indices_keep (w : Wait) (fd : Int) {f : WaitEntry → WaitEntry}
    (hf : (f (w.entries fd)).index = (w.entries fd).index) :
    (w.setEntry fd f).indices = w.indices := by
  rw [w.setEntry_indices, hf]
  exact Function.update_eq_self ..

/-- **The invariant of a set**: array and index table are inverse to each
other, and the descriptors are in range. -/
structure WaitInv (w : Wait) : Prop where
  indexed : Indexed w.sockfds w.nfds w.indices
  range : ∀ i, i < w.nfds → 0 ≤ w.sockfds i ∧ w.sockfds i < maxSocketsLib

theorem WaitInv.member_iff {w : Wait} (h : WaitInv w) (fd : Int) :
    w.Member fd ↔ (w.entries fd).index ≠ -1 :=
  h.indexed.inSet_iff fd

theorem WaitInv.ok {w : Wait} (h : WaitInv w) : WaitOk w := by
  refine ⟨fun i j hi hj heq => h.indexed.inj hi hj heq, fun fd i => ?_, fun fd hno => ?_,
    h.range, h.indexed.length_le h.range⟩
  · exact (h.indexed.inverse fd i).symm
  · exact Classical.not_not.mp fun hne => hno ((h.member_iff fd).mpr hne)

theorem waitNew_inv (mem : Nat → Int) (ctx : Nat) : WaitInv (waitNew mem ctx) :=
  ⟨indexed_empty mem, fun i hi => absurd hi (Nat.not_lt_zero i)⟩

/-! ## The writes of the calls -/

theorem WaitInv.insert {w : Wait} (h : WaitInv w) {fd : Int} (hno : (w.entries fd).index = -1)
    (hfd : 0 ≤ fd ∧ fd < maxSocketsLib) (events : UInt32) (data : UInt64) (sock : Nat) :
    WaitInv (w.insert fd events data sock) := by
  refine ⟨?_, fun k hk => ?_⟩
  · have hidx := w.setEntry_indices fd fun _ =>
      { events, data, index := w.nfds, sock := some sock }
    have hpush := h.indexed.push hno
    rw [← hidx] at hpush
    exact hpush
  · have hk : k < w.nfds + 1 := hk
    show 0 ≤ Function.update w.sockfds w.nfds fd k ∧
      Function.update w.sockfds w.nfds fd k < maxSocketsLib
    by_cases hkn : k = w.nfds
    · rw [hkn, Function.update_self]
      exact hfd
    · rw [Function.update_of_ne hkn]
      exact h.range k (by omega)

theorem Wait.insert_member (w : Wait) (fd : Int) (events : UInt32) (data : UInt64) (sock : Nat)
    (x : Int) : (w.insert fd events data sock).Member x ↔ x = fd ∨ w.Member x :=
  inSet_push w.sockfds w.nfds fd x

theorem Wait.insert_entry (w : Wait) (fd : Int) (events : UInt32) (data : UInt64) (sock : Nat) :
    (w.insert fd events data sock).entries fd =
      { events, data, index := w.nfds, sock := some sock } :=
  Function.update_self fd _ w.entries

theorem Wait.insert_ownOnly (w : Wait) (fd : Int) (events : UInt32) (data : UInt64)
    (sock : Nat) : OwnOnly w (w.insert fd events data sock) fd := by
  have hent : ∀ x, x ≠ fd → (w.insert fd events data sock).entries x = w.entries x :=
    fun x hx => Function.update_of_ne hx _ w.entries
  refine ⟨rfl, fun x hx => ?_, fun x hx => ?_, fun x hx => ?_, fun x hx => ?_⟩
  · rw [w.insert_member]
    simp [hx]
  all_goals
    rw [hent x hx]

section

variable {w : Wait} {fd : Int} {i : Nat}

/-- The indices after a deletion: first the last descriptor is given the
place, then the deleted one loses its own. -/
theorem Wait.remove_indices (w : Wait) (fd : Int) (i : Nat) :
    (w.remove fd i).indices =
      Function.update (Function.update w.indices (w.sockfds (w.nfds - 1)) i) fd (-1) := by
  unfold Wait.remove
  rw [Wait.setEntry_indices, Wait.setEntry_indices]
  rfl

theorem Wait.remove_sockfds (w : Wait) (fd : Int) (i : Nat) :
    (w.remove fd i).sockfds = Function.update w.sockfds i (w.sockfds (w.nfds - 1)) :=
  rfl

theorem WaitInv.remove (h : WaitInv w) (hi : i < w.nfds) (hfd : w.sockfds i = fd) :
    WaitInv (w.remove fd i) := by
  refine ⟨?_, fun k hk => ?_⟩
  · rw [w.remove_indices]
    have hrem := h.indexed.remove hi
    rw [hfd] at hrem
    exact hrem
  · have hk : k < w.nfds - 1 := hk
    rw [w.remove_sockfds]
    by_cases hki : k = i
    · rw [hki, Function.update_self]
      exact h.range (w.nfds - 1) (by omega)
    · rw [Function.update_of_ne hki]
      exact h.range k (by omega)

theorem WaitInv.remove_member (h : WaitInv w) (hi : i < w.nfds) (hfd : w.sockfds i = fd)
    (x : Int) : (w.remove fd i).Member x ↔ x ≠ fd ∧ w.Member x := by
  rw [← hfd]
  exact h.indexed.inSet_remove hi x

theorem Wait.remove_entry (w : Wait) (fd idx : Int) :
    (w.remove fd idx).entries fd = { events := 0, data := 0, index := -1, sock := none } := by
  unfold Wait.remove
  rw [Wait.setEntry_self]

/-- Besides its own entry, a deletion writes an index. -/
theorem Wait.remove_entry_of_ne (w : Wait) {fd : Int} (idx : Int) {x : Int} (hx : x ≠ fd) :
    ∃ idx', (w.remove fd idx).entries x = { w.entries x with index := idx' } := by
  unfold Wait.remove
  rw [Wait.setEntry_of_ne _ hx]
  by_cases hl : x = w.sockfds (w.nfds - 1)
  · subst hl
    exact ⟨idx, Wait.setEntry_self ..⟩
  · exact ⟨(w.entries x).index, Wait.setEntry_of_ne _ hl _⟩

theorem WaitInv.remove_ownOnly (h : WaitInv w) (hi : i < w.nfds) (hfd : w.sockfds i = fd) :
    OwnOnly w (w.remove fd i) fd := by
  refine ⟨rfl, fun x hx => ?_, fun x hx => ?_, fun x hx => ?_, fun x hx => ?_⟩
  · rw [h.remove_member hi hfd]
    simp [hx]
  all_goals
    obtain ⟨idx', hx'⟩ := w.remove_entry_of_ne i hx
    rw [hx']

end

/-! ## The calls one by one -/

/-- What `lookup_sock` finds is in range. -/
def InRange {L : Type} (lookup : L → Nat → Int → Option Nat) : Prop :=
  ∀ lib ctx fd i, lookup lib ctx fd = some i → 0 ≤ fd ∧ fd < maxSocketsLib

theorem tcpLookupSock_inRange : InRange Tcp.lookupSock := by
  intro lib ctx fd i hi
  unfold Tcp.lookupSock at hi
  split at hi
  next => exact absurd hi nofun
  next hfd =>
    rw [show (Tcp.maxSocketsLib : Int) = maxSocketsLib from rfl] at hfd
    omega

theorem udpLookupSock_inRange : InRange Udp.lookupSock := by
  intro lib ctx fd i hi
  unfold Udp.lookupSock at hi
  split at hi
  next => exact absurd hi nofun
  next hfd =>
    rw [show (Udp.maxSocketsLib : Int) = maxSocketsLib from rfl] at hfd
    omega

section

variable {L : Type} {lookup : L → Nat → Int → Option Nat} {w : Wait}

theorem waitAdd_spec (hin : InRange lookup) (h : WaitInv w) (lib : L) (fd : Int)
    (events : UInt32) (data : UInt64) :
    WaitInv (waitAdd (lookup lib w.ctx fd) w fd events data).1 ∧
      CallDoes lookup w (.add lib fd events data)
        (waitAdd (lookup lib w.ctx fd) w fd events data) := by
  unfold waitAdd CallDoes
  split
  next hnone =>
    exact ⟨h, fun _ => rfl, iff_of_false nofun fun hs => hs.1 hnone, nofun⟩
  next i hi =>
    split
    next hidx =>
      refine ⟨h, fun _ => rfl, iff_of_false nofun fun hs => ?_, nofun⟩
      exact hs.2 ((h.member_iff fd).mpr hidx)
    next hidx =>
      have hidx : (w.entries fd).index = -1 := Classical.not_not.mp hidx
      have hno : ¬ w.Member fd := fun hm => (h.member_iff fd).mp hm hidx
      have hsome : lookup lib w.ctx fd ≠ none := by simp [hi]
      refine ⟨h.insert hidx (hin lib w.ctx fd i hi) events data i, fun hne => absurd rfl hne,
        iff_of_true rfl ⟨hsome, hno⟩, fun _ => ⟨?_, ?_, rfl, w.insert_ownOnly ..⟩⟩
      · exact (w.insert_member ..).mpr (.inl rfl)
      · unfold Wait.Holds
        rw [hi, w.insert_entry]
        exact ⟨rfl, rfl, rfl⟩

theorem waitMod_spec (h : WaitInv w) (lib : L) (fd : Int)
    (events : UInt32) (data : UInt64) :
    WaitInv (waitMod (lookup lib w.ctx fd) w fd events data).1 ∧
      CallDoes lookup w (.mod lib fd events data)
        (waitMod (lookup lib w.ctx fd) w fd events data) := by
  unfold waitMod CallDoes
  split
  next hnone =>
    exact ⟨h, fun _ => rfl, iff_of_false nofun fun hs => hs.1 hnone, nofun⟩
  next i hi =>
    split
    next hidx =>
      refine ⟨h, fun _ => rfl, iff_of_false nofun fun hs => ?_, nofun⟩
      exact (h.member_iff fd).mp hs.2 hidx
    next hidx =>
      have hm : w.Member fd := (h.member_iff fd).mpr hidx
      have hsome : lookup lib w.ctx fd ≠ none := by simp [hi]
      refine ⟨⟨?_, h.range⟩, fun hne => absurd rfl hne, iff_of_true rfl ⟨hsome, hm⟩,
        fun _ => ⟨hm, ?_, rfl, ?_⟩⟩
      · rw [w.setEntry_indices_keep fd rfl]
        exact h.indexed
      · unfold Wait.Holds
        rw [hi]
        simp
      · refine ⟨rfl, fun x hx => Iff.rfl, fun x hx => ?_, fun x hx => ?_, fun x hx => ?_⟩
        all_goals
          rw [w.setEntry_of_ne hx]

theorem waitDel_spec (h : WaitInv w) (fd : Int) :
    WaitInv (waitDel w fd).1 ∧ CallDoes lookup w (.del fd) (waitDel w fd) := by
  unfold waitDel CallDoes
  split
  next hfd =>
    refine ⟨h, fun _ => rfl, iff_of_false nofun fun hm => ?_, nofun⟩
    obtain ⟨i, hi, rfl⟩ := hm
    have := h.range i hi
    omega
  next hfd =>
    dsimp only
    split
    next hidx =>
      refine ⟨h, fun _ => rfl, iff_of_false nofun fun hm => ?_, nofun⟩
      exact (h.member_iff fd).mp hm hidx
    next hidx =>
      obtain ⟨i, hi, hin, hfdi⟩ := h.indexed.place hidx
      have hi : (w.entries fd).index = i := hi
      have hm : w.Member fd := (h.member_iff fd).mpr hidx
      rw [hi]
      refine ⟨h.remove hin hfdi, fun hne => absurd rfl hne, iff_of_true rfl hm,
        fun _ => ⟨?_, ?_, ?_, h.remove_ownOnly hin hfdi⟩⟩
      · exact fun hm' => ((h.remove_member hin hfdi fd).mp hm').1 rfl
      · unfold Wait.Holds
        rw [w.remove_entry]
        exact ⟨rfl, rfl, rfl⟩
      · show w.nfds - 1 + 1 = w.nfds
        omega

end

theorem tcpWaitCall_spec {w : Wait} (h : WaitInv w) (call : WaitCall Tcp.TcpLib) :
    WaitInv (tcpWaitCall w call).1 ∧ CallDoes Tcp.lookupSock w call (tcpWaitCall w call) := by
  cases call with
  | add lib fd events data => exact waitAdd_spec tcpLookupSock_inRange h lib fd events data
  | mod lib fd events data => exact waitMod_spec h lib fd events data
  | del fd => exact waitDel_spec h fd

theorem udpWaitCall_spec {w : Wait} (h : WaitInv w) (call : WaitCall Udp.UdpFdLib) :
    WaitInv (udpWaitCall w call).1 ∧ CallDoes Udp.lookupSock w call (udpWaitCall w call) := by
  cases call with
  | add lib fd events data => exact waitAdd_spec udpLookupSock_inRange h lib fd events data
  | mod lib fd events data => exact waitMod_spec h lib fd events data
  | del fd => exact waitDel_spec h fd

/-! ## All calls -/

/-- The sets some calls lead to, from a new one. -/
def WaitRun {L : Type} (step : Wait → WaitCall L → Wait × Option WaitErrno) (mem : Nat → Int)
    (ctx : Nat) (log : List (Option WaitErrno)) (w : Wait) : Prop :=
  Run (fun _ _ => True) step (waitNew mem ctx) log w

/-- A set whose every call is as specified keeps the invariant. -/
theorem WaitRun.inv {L : Type} {step : Wait → WaitCall L → Wait × Option WaitErrno}
    (hstep : ∀ w call, WaitInv w → WaitInv (step w call).1) {mem : Nat → Int} {ctx : Nat}
    {log : List (Option WaitErrno)} {w : Wait} (hr : WaitRun step mem ctx log w) : WaitInv w :=
  Run.inv (I := fun _ w => WaitInv w) (waitNew_inv mem ctx)
    (fun _ w call h _ => hstep w call h) hr

/-- **Wait sets stay consistent**, in both libraries: after any calls, failed
ones included, the arrays fit together, and the next call changes its own
descriptor at most. -/
theorem wait_sets_consistent (mem : Nat → Int) (ctx : Nat) (log : List (Option WaitErrno))
    (w : Wait) :
    (WaitRun tcpWaitCall mem ctx log w →
      WaitOk w ∧ ∀ call, CallDoes Tcp.lookupSock w call (tcpWaitCall w call)) ∧
    (WaitRun udpWaitCall mem ctx log w →
      WaitOk w ∧ ∀ call, CallDoes Udp.lookupSock w call (udpWaitCall w call)) := by
  constructor
  · intro hr
    have h := hr.inv fun w call h => (tcpWaitCall_spec h call).1
    exact ⟨h.ok, fun call => (tcpWaitCall_spec h call).2⟩
  · intro hr
    have h := hr.inv fun w call h => (udpWaitCall_spec h call).1
    exact ⟨h.ok, fun call => (udpWaitCall_spec h call).2⟩

/-- Calls on a context with two sockets: the second `add` of descriptor 0 and
the `mod` behind its deletion fail. -/
def waitCalls {L : Type} (lib : L) : List (WaitCall L) :=
  [.add lib 0 1 10, .add lib 1 1 11, .add lib 0 2 12, .del 0, .mod lib 0 2 13]

def udpTwoFds : Udp.UdpFdLib :=
  { nextSockfd := 2, socks := fun i => if i < 2 then some { ctx := 0, sockId := none } else none }

/-- Descriptor 1 was moved into the hole descriptor 0 left. -/
theorem wait_sets_consistent_two :
    (execAll tcpWaitCall (waitCalls Tcp.twoSockets.lib) (waitNew (fun _ => 0) 0)).1 =
        [none, none, some .exist, none, some .noent] ∧
      WaitOk (execAll tcpWaitCall (waitCalls Tcp.twoSockets.lib) (waitNew (fun _ => 0) 0)).2 ∧
      WaitOk (execAll udpWaitCall (waitCalls udpTwoFds) (waitNew (fun _ => 0) 0)).2 := by
  refine ⟨rfl, ?_, ?_⟩
  · exact ((wait_sets_consistent (fun _ => 0) 0 _ _).1 (Run.execAll _ Run.nil)).1
  · exact ((wait_sets_consistent (fun _ => 0) 0 _ _).2 (Run.execAll _ Run.nil)).1

end Chamelio.Util
