import Chamelio.Lib.Run
import Chamelio.Fast.ControlIf

/-!
# Accepting a guest (`control/guestif.c`, `uxsocket_accept`)

A new guest takes the slot behind the guests registered so far, and is
announced to the cores one by one with a `NEW_GUEST` message; the control
path counts it when the last core has its message. A core counts the messages
it receives (`Fast.handleNewGuest`), and keeps what they carry: the base of
the guest's shared memory and a pointer to the core's budget of that guest.

The two counts agree as long as an accept that reaches the announcements
finds room for all of them or for none (`AcceptOk`). When the queue of a
later core is full, the function leaves through its cleanup path and destroys
the shared memory, with the guest already announced to the cores before;
these stay one ahead for ever.

Mirroring notes: what the operating system and the allocators answer is part
of the action, one answer for each call in the order of the calls. A mapping
is the number of its base address, a budget pointer is the slot and the core
of the counter; a core has both beside its `Fast.FastCtx`, in which offsets
stand for addresses. Messages that are not `NEW_GUEST` change neither count nor
what is compared here and are `other`.
-/

namespace Chamelio.Control

open Chamelio.Lib

/-- The configuration `uxsocket_accept` reads. -/
structure AcceptConfig where
  fpCoresMax : Nat
  shmLen : Nat
  perfIso : Bool
  budgetCap : Nat
  virtGre : Bool
  /-- `netvirt_table_get(gid_table, id, config->ip)`: key and inner address. -/
  gidEntry : Nat → Option (UInt32 × UInt32)

/-- `&guests[slot].budgets[core].val`. -/
structure BudgetPtr where
  slot : Nat
  core : Nat
  deriving DecidableEq, Repr

/-- `struct queue_new_guest_req`. -/
structure NewGuestReq where
  id : Nat
  budget : BudgetPtr
  shmBase : Nat
  shmLen : Nat
  greKey : UInt32
  guestIp : UInt32
  deriving DecidableEq, Repr

inductive AcceptMsg
  | newGuest (req : NewGuestReq)
  | other
  deriving DecidableEq, Repr

/-- The part of `struct guest_control` an accept writes before the cores are
told. -/
structure AcceptedGuest where
  id : Nat
  shmBase : Nat
  /-- `budgets[i].val`. -/
  budgets : Nat → Int

/-- The fields of `struct guest_fast` that `Fast.GuestFast` leaves out. -/
structure CoreGuest where
  budget : BudgetPtr
  shmBase : Nat
  greKey : UInt32
  ip : UInt32
  deriving DecidableEq, Repr

structure AcceptCore where
  ctx : Fast.FastCtx
  guests : Nat → CoreGuest

/-- The answers to the calls of `uxsocket_accept` that can fail. -/
structure AcceptOs where
  accept : Bool
  shmCreateHuge : Option Nat
  uxsocketSendfd : Bool
  gev : Bool
  shmallocInit : Bool
  guestChamHandle : Bool
  guestChamQ : Bool
  chamGuestHandle : Bool
  chamGuestQ : Bool
  epollCtl : Bool

structure AcceptSys where
  nGuests : Nat
  guests : Nat → AcceptedGuest
  /-- `ctl_fast_qs`. -/
  qs : Nat → Fifo AcceptMsg
  cores : Nat → AcceptCore

namespace AcceptSys

/-- `budgets[i].val` of a new guest. -/
def budgetShare (cfg : AcceptConfig) (i : Nat) : Int :=
  if cfg.perfIso then
    (cfg.budgetCap / cfg.fpCoresMax + if i < cfg.budgetCap % cfg.fpCoresMax then 1 else 0 : Nat)
  else 9223372036854775807

/-- The message for core `i`; `none` when the guest has no entry in the
network virtualisation table. -/
def newGuestReq (cfg : AcceptConfig) (id shmBase i : Nat) : Option NewGuestReq :=
  let req : NewGuestReq :=
    { id, budget := ⟨id, i⟩, shmBase, shmLen := cfg.shmLen, greKey := 0, guestIp := 0 }
  if cfg.virtGre then
    match cfg.gidEntry id with
    | none => none
    | some (greKey, guestIp) => some { req with greKey, guestIp }
  else some req

/-- The loop over the cores, for `n` cores from core `i` on; `false` when it
leaves through the cleanup path. -/
def announce (cfg : AcceptConfig) (id shmBase : Nat) : Nat → Nat → (Nat → Fifo AcceptMsg) →
    (Nat → Fifo AcceptMsg) × Bool
  | 0, _, qs => (qs, true)
  | n + 1, i, qs =>
    -- `queue_tail` is asked first
    if (qs i).hasRoom = false then (qs, false)
    else
      match newGuestReq cfg id shmBase i with
      | none => (qs, false)
      | some req =>
        match (qs i).push (.newGuest req) with
        | none => (qs, false)
        | some q => announce cfg id shmBase n (i + 1) fun j => if j = i then q else qs j

/-- The calls between the write of the slot and the announcements succeed. -/
def ringsOk (os : AcceptOs) : Bool :=
  os.shmallocInit && os.guestChamHandle && os.guestChamQ && os.chamGuestHandle &&
    os.chamGuestQ && os.epollCtl

/-- The slot of a new guest. -/
def newSlot (cfg : AcceptConfig) (s : AcceptSys) (shmBase : Nat) : AcceptSys :=
  { s with
    guests := fun j =>
      if j = s.nGuests then
        { id := s.nGuests, shmBase := shmBase, budgets := budgetShare cfg }
      else s.guests j }

/-- `uxsocket_accept`; `false` for `-1`. -/
def uxsocketAccept (cfg : AcceptConfig) (s : AcceptSys) (os : AcceptOs) : AcceptSys × Bool :=
  if os.accept = false then (s, false)
  else if chamelioMaxGuests ≤ s.nGuests then (s, false)
  else
    match os.shmCreateHuge with
    | none => (s, false)
    | some shmBase =>
      if os.uxsocketSendfd = false then (s, false)
      else if os.gev = false then (s, false)
      else
        let s := s.newSlot cfg shmBase
        if ringsOk os = false then (s, false)
        else
          match announce cfg s.nGuests shmBase cfg.fpCoresMax 0 s.qs with
          | (qs, false) => ({ s with qs }, false)
          | (qs, true) => ({ s with qs, nGuests := s.nGuests + 1 }, true)

/-- `handle_new_guest`, with the fields `Fast.handleNewGuest` leaves out. -/
def coreHandle (virtGre : Bool) (core : AcceptCore) : AcceptMsg → AcceptCore
  | .other => core
  | .newGuest req =>
    if chamelioMaxGuests ≤ req.id then core
    else
      let g := core.guests req.id
      { ctx := Fast.handleNewGuest core.ctx req.id req.shmLen
        guests := fun j =>
          if j = req.id then
            { budget := req.budget, shmBase := req.shmBase
              greKey := if virtGre then req.greKey else g.greKey
              ip := if virtGre then req.guestIp else g.ip }
          else core.guests j }

inductive AcceptAct
  | accept (os : AcceptOs)
  /-- Core `c` handles its next message. -/
  | drain (c : Nat)
  /-- The control path sends core `c` another message. -/
  | other (c : Nat)

def step (cfg : AcceptConfig) (s : AcceptSys) : AcceptAct → AcceptSys × Unit
  | .accept os => ((uxsocketAccept cfg s os).1, ())
  | .drain c =>
    match (s.qs c).head? with
    | none => (s, ())
    | some msg =>
      ({ s with
        qs := fun j => if j = c then (s.qs c).pop else s.qs j
        cores := fun j => if j = c then coreHandle cfg.virtGre (s.cores c) msg else s.cores j }, ())
  | .other c =>
    match (s.qs c).push .other with
    | none => (s, ())
    | some q => ({ s with qs := fun j => if j = c then q else s.qs j }, ())

/-- Core `c` once it has handled all its messages. -/
def drained (cfg : AcceptConfig) (s : AcceptSys) (c : Nat) : AcceptCore :=
  (s.qs c).items.foldl (coreHandle cfg.virtGre) (s.cores c)

/-- The core has the guests of the control path. -/
structure Agrees (s : AcceptSys) (c : Nat) (core : AcceptCore) : Prop where
  count : core.ctx.nGuests = s.nGuests
  shm : ∀ i, i < s.nGuests → (core.guests i).shmBase = (s.guests i).shmBase
  budget : ∀ i, i < s.nGuests → (core.guests i).budget = ⟨i, c⟩

/-- An accept that gets to the announcements has room for all of them or for
none. -/
def AcceptOk (cfg : AcceptConfig) (s : AcceptSys) : AcceptAct → Prop
  | .accept os =>
    os.accept = true → s.nGuests < chamelioMaxGuests → os.shmCreateHuge ≠ none →
      os.uxsocketSendfd = true → os.gev = true → ringsOk os = true →
      (cfg.virtGre = true → cfg.gidEntry s.nGuests ≠ none) →
      (s.qs 0).hasRoom = true → ∀ c, c < cfg.fpCoresMax → (s.qs c).hasRoom = true
  | _ => True

instance (cfg : AcceptConfig) (s : AcceptSys) (a : AcceptAct) : Decidable (AcceptOk cfg s a) := by
  unfold AcceptOk
  split
  · infer_instance
  · infer_instance

/-! ## The announcements -/

section

variable {cfg : AcceptConfig} {id shmBase : Nat}

/-- The message is there for all cores or for none. -/
theorem newGuestReq_some {i : Nat} {req : NewGuestReq}
    (h : newGuestReq cfg id shmBase i = some req) :
    req.id = id ∧ req.budget = ⟨id, i⟩ ∧ req.shmBase = shmBase := by
  unfold newGuestReq at h
  dsimp only at h
  split at h
  · split at h
    · cases h
    · cases h
      exact ⟨rfl, rfl, rfl⟩
  · cases h
    exact ⟨rfl, rfl, rfl⟩

theorem newGuestReq_none {i : Nat} (h : newGuestReq cfg id shmBase i = none) :
    cfg.virtGre = true ∧ cfg.gidEntry id = none := by
  unfold newGuestReq at h
  dsimp only at h
  split at h
  · next hv =>
    split at h
    · next hn => exact ⟨hv, hn⟩
    · cases h
  · cases h

/-- With an entry for the guest and room everywhere, every core gets its
message and nobody anything else. -/
theorem announce_all (hent : cfg.virtGre = true → cfg.gidEntry id ≠ none) (n i : Nat)
    (qs : Nat → Fifo AcceptMsg) (hroom : ∀ c, i ≤ c → c < i + n → (qs c).hasRoom = true) :
    (announce cfg id shmBase n i qs).2 = true ∧
    ∀ c, (i ≤ c → c < i + n → ∃ req, newGuestReq cfg id shmBase c = some req ∧
        ((announce cfg id shmBase n i qs).1 c).items = (qs c).items ++ [.newGuest req]) ∧
      (c < i ∨ i + n ≤ c → (announce cfg id shmBase n i qs).1 c = qs c) := by
  induction n generalizing i qs with
  | zero =>
    refine ⟨rfl, fun c => ⟨fun hi hn => absurd hn (by omega), fun _ => rfl⟩⟩
  | succ n ih =>
    have hri := hroom i (Nat.le_refl i) (by omega)
    rw [announce, if_neg (by rw [hri]; exact Bool.noConfusion)]
    cases hreq : newGuestReq cfg id shmBase i with
    | none =>
      obtain ⟨hv, hn⟩ := newGuestReq_none hreq
      exact absurd hn (hent hv)
    | some req =>
      dsimp only
      have hpush := Fifo.push_of_room hri (.newGuest req)
      rw [hpush]
      dsimp only
      obtain ⟨hok, hall⟩ := ih (i + 1)
        (fun j => if j = i then { qs i with items := (qs i).items ++ [.newGuest req] } else qs j)
        (by
          intro c hi hn
          dsimp only
          rw [if_neg (by omega)]
          exact hroom c (by omega) (by omega))
      refine ⟨hok, fun c => ⟨fun hi hn => ?_, fun hout => ?_⟩⟩
      · by_cases hc : c = i
        · rw [(hall c).2 (.inl (by omega)), hc, if_pos rfl]
          exact ⟨req, hreq, rfl⟩
        · obtain ⟨req', hreq', hitems⟩ := (hall c).1 (by omega) (by omega)
          refine ⟨req', hreq', ?_⟩
          rw [hitems, if_neg hc]
      · rw [(hall c).2 (by omega), if_neg (by omega)]

/-- Without room at the first core nobody is told. -/
theorem announce_first_full {n : Nat} {qs : Nat → Fifo AcceptMsg} (hn : 0 < n)
    (h : (qs 0).hasRoom = false) : announce cfg id shmBase n 0 qs = (qs, false) := by
  obtain ⟨m, rfl⟩ := Nat.exists_eq_succ_of_ne_zero (Nat.pos_iff_ne_zero.mp hn)
  rw [announce, if_pos h]

/-- Without an entry for the guest nobody is told. -/
theorem announce_no_entry {n : Nat} {qs : Nat → Fifo AcceptMsg} (hn : 0 < n)
    (hv : cfg.virtGre = true) (h : cfg.gidEntry id = none) :
    announce cfg id shmBase n 0 qs = (qs, false) := by
  obtain ⟨m, rfl⟩ := Nat.exists_eq_succ_of_ne_zero (Nat.pos_iff_ne_zero.mp hn)
  rw [announce]
  split
  · rfl
  · have hnone : newGuestReq cfg id shmBase 0 = none := by
      unfold newGuestReq
      dsimp only
      rw [if_pos hv, h]
    rw [hnone]

end

/-! ## Steps -/

section

variable {cfg : AcceptConfig} {s : AcceptSys}

/-- Every core agrees once it has handled its messages. -/
def Consistent (cfg : AcceptConfig) (s : AcceptSys) : Prop :=
  s.nGuests ≤ chamelioMaxGuests ∧ ∀ c, c < cfg.fpCoresMax → Agrees s c (s.drained cfg c)

/-- Only the slots in use count. -/
theorem Agrees.slots {s' : AcceptSys} {c : Nat} {core : AcceptCore} (h : Agrees s c core)
    (hn : s'.nGuests = s.nGuests) (hg : ∀ i, i < s.nGuests → s'.guests i = s.guests i) :
    Agrees s' c core := by
  refine ⟨h.count.trans hn.symm, fun i hi => ?_, fun i hi => ?_⟩
  · rw [hn] at hi
    rw [hg i hi]
    exact h.shm i hi
  · rw [hn] at hi
    exact h.budget i hi

theorem newSlot_guests {shmBase i : Nat} (hi : i < s.nGuests) :
    (s.newSlot cfg shmBase).guests i = s.guests i := if_neg (Nat.ne_of_lt hi)

/-- The core that handles the announcement of a new guest agrees with the
control path that counted it. -/
theorem Agrees.announced {c shmBase : Nat} {core : AcceptCore} {req : NewGuestReq}
    {qs : Nat → Fifo AcceptMsg} (h : Agrees s c core) (hmax : s.nGuests < chamelioMaxGuests)
    (hreq : newGuestReq cfg s.nGuests shmBase c = some req) :
    Agrees { s.newSlot cfg shmBase with qs, nGuests := s.nGuests + 1 } c
      (coreHandle cfg.virtGre core (.newGuest req)) := by
  obtain ⟨hid, hbud, hshm⟩ := newGuestReq_some hreq
  have hlt : ¬ chamelioMaxGuests ≤ req.id := by
    rw [hid]
    omega
  unfold coreHandle
  dsimp only
  rw [if_neg hlt, hid]
  refine ⟨?_, fun i hi => ?_, fun i hi => ?_⟩
  · -- `n_guests` is a byte, and the guests fit
    have hbyte : (core.ctx.nGuests + 1) % 256 = s.nGuests + 1 := by
      rw [h.count]
      exact Nat.mod_eq_of_lt (by unfold chamelioMaxGuests at hmax; omega)
    rw [← hbyte]
    exact Fast.handleNewGuest_nGuests (by omega)
  · change i < s.nGuests + 1 at hi
    dsimp only
    by_cases hin : i = s.nGuests
    · rw [if_pos hin, hin]
      show req.shmBase = ((s.newSlot cfg shmBase).guests s.nGuests).shmBase
      unfold newSlot
      dsimp only
      rw [if_pos rfl, hshm]
    · rw [if_neg hin, newSlot_guests (by omega)]
      exact h.shm i (by omega)
  · change i < s.nGuests + 1 at hi
    dsimp only
    by_cases hin : i = s.nGuests
    · rw [if_pos hin, hin]
      exact hbud
    · rw [if_neg hin]
      exact h.budget i (by omega)

theorem drained_push {c : Nat} {q : Fifo AcceptMsg} {msg : AcceptMsg} (s' : AcceptSys)
    (hcores : s'.cores c = s.cores c) (hq : s'.qs c = q)
    (hitems : q.items = (s.qs c).items ++ [msg]) :
    s'.drained cfg c = coreHandle cfg.virtGre (s.drained cfg c) msg := by
  unfold drained
  rw [hq, hitems, hcores, List.foldl_append]
  rfl

theorem Consistent.accept (h : Consistent cfg s) {os : AcceptOs}
    (hok : AcceptOk cfg s (.accept os)) : Consistent cfg (uxsocketAccept cfg s os).1 := by
  -- leaving early changes no slot in use and sends nothing
  have hearly : ∀ shmBase, Consistent cfg (s.newSlot cfg shmBase) := by
    intro shmBase
    refine ⟨h.1, fun c hc => (h.2 c hc).slots rfl fun i hi => newSlot_guests hi⟩
  unfold uxsocketAccept
  split
  · exact h
  next hacc =>
  split
  · exact h
  next hmax =>
  cases hshm : os.shmCreateHuge with
  | none => exact h
  | some shmBase =>
    dsimp only
    split
    · exact h
    next hfd =>
    split
    · exact h
    next hgev =>
    split
    · exact hearly shmBase
    next hrings =>
    rw [Bool.not_eq_false] at hacc hfd hgev hrings
    have hqs : (s.newSlot cfg shmBase).qs = s.qs := rfl
    have hn : (s.newSlot cfg shmBase).nGuests = s.nGuests := rfl
    rw [hqs, hn]
    by_cases hcores : cfg.fpCoresMax = 0
    · -- nobody to tell
      rw [hcores]
      refine ⟨?_, fun c hc => ?_⟩
      · show s.nGuests + 1 ≤ chamelioMaxGuests
        omega
      · omega
    · have hpos := Nat.pos_iff_ne_zero.mpr hcores
      by_cases hent : cfg.virtGre = true ∧ cfg.gidEntry s.nGuests = none
      · rw [announce_no_entry hpos hent.1 hent.2]
        exact hearly shmBase
      · have hent' : cfg.virtGre = true → cfg.gidEntry s.nGuests ≠ none :=
          fun hv he => hent ⟨hv, he⟩
        cases hfirst : (s.qs 0).hasRoom with
        | false =>
          rw [announce_first_full hpos hfirst]
          exact hearly shmBase
        | true =>
          have hroom := hok hacc (by omega) (by rw [hshm]; exact Option.some_ne_none _) hfd hgev
            hrings hent' hfirst
          obtain ⟨hdone, hall⟩ := @announce_all cfg s.nGuests shmBase hent' cfg.fpCoresMax 0 s.qs
            fun c _ hc => hroom c (by omega)
          generalize hann : announce cfg s.nGuests shmBase cfg.fpCoresMax 0 s.qs = r at hdone hall
          obtain ⟨qs, ok⟩ := r
          cases hdone
          refine ⟨?_, fun c hc => ?_⟩
          · show s.nGuests + 1 ≤ chamelioMaxGuests
            omega
          · obtain ⟨req, hreq, hitems⟩ := (hall c).1 (Nat.zero_le c) (by omega)
            dsimp only at hitems ⊢
            have hd : drained cfg { s.newSlot cfg shmBase with qs, nGuests := s.nGuests + 1 } c =
                coreHandle cfg.virtGre (s.drained cfg c) (.newGuest req) :=
              drained_push { s.newSlot cfg shmBase with qs, nGuests := s.nGuests + 1 } rfl rfl hitems
            rw [hd]
            exact (h.2 c hc).announced (by omega) hreq

theorem Consistent.drain (h : Consistent cfg s) (c : Nat) :
    Consistent cfg (step cfg s (.drain c)).1 := by
  unfold step
  dsimp only
  cases hhead : (s.qs c).head? with
  | none => exact h
  | some msg =>
    refine ⟨h.1, fun c' hc' => ?_⟩
    dsimp only
    have hsame : drained cfg { s with
        qs := fun j => if j = c then (s.qs c).pop else s.qs j
        cores := fun j => if j = c then coreHandle cfg.virtGre (s.cores c) msg else s.cores j } c' =
          s.drained cfg c' := by
      unfold drained
      dsimp only
      by_cases hc : c' = c
      · rw [if_pos hc, if_pos hc, hc, Fifo.head_cons hhead]
        rfl
      · rw [if_neg hc, if_neg hc]
    rw [hsame]
    exact (h.2 c' hc').slots rfl fun _ _ => rfl

theorem Consistent.other (h : Consistent cfg s) (c : Nat) :
    Consistent cfg (step cfg s (.other c)).1 := by
  unfold step
  dsimp only
  cases hpush : (s.qs c).push .other with
  | none => exact h
  | some q =>
    refine ⟨h.1, fun c' hc' => ?_⟩
    dsimp only
    have hsame : drained cfg { s with qs := fun j => if j = c then q else s.qs j } c' =
        s.drained cfg c' := by
      by_cases hc : c' = c
      · rw [hc]
        exact @drained_push cfg s c q .other { s with qs := fun j => if j = c then q else s.qs j }
          rfl (if_pos rfl) (Fifo.push_items hpush)
      · unfold drained
        dsimp only
        rw [if_neg hc]
    rw [hsame]
    exact (h.2 c' hc').slots rfl fun _ _ => rfl

theorem Consistent.step {a : AcceptAct} (h : Consistent cfg s) (hok : AcceptOk cfg s a) :
    Consistent cfg (AcceptSys.step cfg s a).1 := by
  cases a with
  | accept os => exact h.accept hok
  | drain c => exact h.drain c
  | other c => exact h.other c

end

/-- No guest yet, on any core. -/
structure Init (s : AcceptSys) : Prop where
  none : s.nGuests = 0
  cores : ∀ c, (s.cores c).ctx.nGuests = 0
  qs : ∀ c, (s.qs c).items = []

end AcceptSys

open AcceptSys

/-- **The cores agree on the guests** in every run in which no accept is cut
off between two announcements: once a core has handled its messages it has
the control path's number of guests, and for each its shared memory and the
core's budget of it. -/
theorem accept_consistent {cfg : AcceptConfig} {s₀ s : AcceptSys} {log : List Unit}
    (h₀ : s₀.Init) (hr : Run (AcceptOk cfg) (AcceptSys.step cfg) s₀ log s) (c : Nat)
    (hc : c < cfg.fpCoresMax) : Agrees s c (s.drained cfg c) := by
  have hinv : Consistent cfg s := by
    refine Run.inv (I := fun _ s => Consistent cfg s) ⟨?_, fun c _ => ?_⟩
      (fun _ _ _ h hok => h.step hok) hr
    · rw [h₀.none]
      exact Nat.zero_le _
    · unfold drained
      rw [h₀.qs c]
      refine ⟨(h₀.cores c).trans h₀.none.symm, fun i hi => ?_, fun i hi => ?_⟩
      · rw [h₀.none] at hi
        exact absurd hi (Nat.not_lt_zero i)
      · rw [h₀.none] at hi
        exact absurd hi (Nat.not_lt_zero i)
  exact hinv.2 c hc

/-- Two cores without GRE. -/
def twoCoreAccept : AcceptConfig where
  fpCoresMax := 2
  shmLen := 65536
  perfIso := false
  budgetCap := 0
  virtGre := false
  gidEntry := fun _ => none

/-- No guests, and control queues of one entry. -/
def noGuests : AcceptSys where
  nGuests := 0
  guests := fun _ => ⟨0, 0, fun _ => 0⟩
  qs := fun _ => ⟨[], 1⟩
  cores := fun _ => ⟨Fast.blankCore, fun _ => ⟨⟨0, 0⟩, 0, 0, 0⟩⟩

/-- Every call succeeds, and the shared memory is at `base`. -/
def osOk (base : Nat) : AcceptOs where
  accept := true
  shmCreateHuge := some base
  uxsocketSendfd := true
  gev := true
  shmallocInit := true
  guestChamHandle := true
  guestChamQ := true
  chamGuestHandle := true
  chamGuestQ := true
  epollCtl := true

/-- An accept that fails at `epoll_ctl`, and one that succeeds. -/
def retriedAccept : List AcceptAct :=
  [.accept { osOk 1000 with epollCtl := false }, .accept (osOk 2000)]

theorem accept_consistent_retried :
    Agrees (execAll (AcceptSys.step twoCoreAccept) retriedAccept noGuests).2 1
      ((execAll (AcceptSys.step twoCoreAccept) retriedAccept noGuests).2.drained twoCoreAccept 1) ∧
    (execAll (AcceptSys.step twoCoreAccept) retriedAccept noGuests).2.nGuests = 1 := by
  have hrun := @Run.execOk _ _ _ (AcceptOk twoCoreAccept) _ (AcceptSys.step twoCoreAccept) noGuests
    retriedAccept _ _ Run.nil (by decide)
  exact ⟨accept_consistent ⟨rfl, fun _ => rfl, fun _ => rfl⟩ hrun 1 (by decide), by decide⟩

/-- The queue of core 1 is full at the first accept and drained before the
second. -/
def cutOffAccept : List AcceptAct :=
  [.other 1, .accept (osOk 1000), .drain 0, .drain 1, .accept (osOk 2000)]

/-- The state after `n` of these steps. -/
def cutOffAfter (n : Nat) : AcceptSys :=
  (execAll (AcceptSys.step twoCoreAccept) (cutOffAccept.take n) noGuests).2

/-- The failed accept leaves core 0 with a guest the control path does not
have, at a mapping that was destroyed; after the retry the counts differ for
good. -/
theorem accept_cut_off :
    (cutOffAfter 3).nGuests = 0 ∧ ((cutOffAfter 3).drained twoCoreAccept 0).ctx.nGuests = 1 ∧
      (((cutOffAfter 3).drained twoCoreAccept 0).guests 0).shmBase = 1000 ∧
      (cutOffAfter 5).nGuests = 1 ∧ ((cutOffAfter 5).drained twoCoreAccept 0).ctx.nGuests = 2 ∧
      ((cutOffAfter 5).drained twoCoreAccept 1).ctx.nGuests = 1 := by
  decide

end Chamelio.Control
