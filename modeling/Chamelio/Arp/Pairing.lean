import Chamelio.Lib.Run
import Chamelio.Arp.Packets

/-!
# ARP packets and their signals

`arp_request` and `arp_reply` put a packet on `txq` and then a signal on
`cfq`; for each signal the core takes, `handle_arp_tx_pkt` transmits the
packet at the head of `txq`. So the two queues have to stay in step: as many
signals in `cfq` as packets in `txq`.

They do as long as a call that finds room on `txq` finds room on `cfq` too
(`PairOk`). When `cfq`, which carries unrelated messages as well, is full,
the packet stays on `txq` without a signal although the call reports a
failure, and every later signal transmits the packet before its own.

Mirroring notes: one call of `arp_request` or `arp_reply` and the handling of
one message are one step each; the control path is the only producer of both
queues and the core their only consumer. Which mbuf carries the packet is
left out.
-/

namespace Chamelio.Arp

open Chamelio.Lib

/-- The two queues of core 0. -/
structure PairSys where
  txq : Fifo ArpPkt
  cfq : Fifo CfMsg

inductive PairAct
  | request (remoteIp : UInt32) (localMac : EthAddr) (localIp : UInt32)
  | reply (localMac : EthAddr) (localIp : UInt32) (remoteMac : EthAddr) (remoteIp : UInt32)
  /-- The control path enqueues any other message. -/
  | send (msg : CfMsg)
  /-- The core handles the next message of its control queue. -/
  | poll

/-- What a step shows. -/
inductive PairObs
  /-- A call with the packet it is about, and whether it returned `0`. -/
  | call (pkt : ArpPkt) (ret : Bool)
  /-- A signal was taken, with the packet transmitted for it. -/
  | signal (pkt : Option ArpPkt)
  | quiet
  deriving DecidableEq, Repr

namespace PairSys

/-- The packet a call is about. -/
def pktOf : PairAct → Option ArpPkt
  | .request remoteIp localMac localIp =>
    some (arpPkt localMac ethBroadcast localIp remoteIp arpOperRequest)
  | .reply localMac localIp remoteMac remoteIp =>
    some (arpPkt localMac remoteMac localIp remoteIp arpOperReply)
  | .send _ | .poll => none

def step (s : PairSys) : PairAct → PairSys × PairObs
  | .request remoteIp localMac localIp =>
    let (txq, cfq, ret) := arpRequest s.txq s.cfq remoteIp localMac localIp
    ({ txq, cfq }, .call (arpPkt localMac ethBroadcast localIp remoteIp arpOperRequest) ret)
  | .reply localMac localIp remoteMac remoteIp =>
    let (txq, cfq, ret) := arpReply s.txq s.cfq localMac localIp remoteMac remoteIp
    ({ txq, cfq }, .call (arpPkt localMac remoteMac localIp remoteIp arpOperReply) ret)
  | .send msg =>
    if msg = .arpTxPkt then (s, .quiet)
    else
      match s.cfq.push msg with
      | none => (s, .quiet)
      | some cfq => ({ s with cfq }, .quiet)
  | .poll =>
    match s.cfq.head? with
    | none => (s, .quiet)
    | some .arpTxPkt =>
      let (txq, pkt) := handleArpTxPkt s.txq
      ({ txq, cfq := s.cfq.pop }, .signal pkt)
    | some _ => ({ s with cfq := s.cfq.pop }, .quiet)

/-- A call that gets its packet onto `txq` has room for its signal. -/
def PairOk (s : PairSys) (a : PairAct) : Prop :=
  pktOf a ≠ none → s.txq.hasRoom = true → s.cfq.hasRoom = true

instance (s : PairSys) (a : PairAct) : Decidable (PairOk s a) := by
  unfold PairOk
  infer_instance

/-- A call enqueued both its packet and its signal and returned `0`, or
neither and failed. -/
def BothOrNeither (s s' : PairSys) (pkt : ArpPkt) (ret : Bool) : Prop :=
  (ret = true ∧ s'.txq.items = s.txq.items ++ [pkt] ∧ s'.cfq.items = s.cfq.items ++ [.arpTxPkt]) ∨
    (ret = false ∧ s' = s)

/-- Packets of the calls that returned `0`, in order. -/
def acceptedOf : List PairObs → List ArpPkt
  | [] => []
  | .call pkt true :: log => pkt :: acceptedOf log
  | .call _ false :: log => acceptedOf log
  | .signal _ :: log => acceptedOf log
  | .quiet :: log => acceptedOf log

/-- What was transmitted for the signals taken, in order. -/
def consumedOf : List PairObs → List (Option ArpPkt)
  | [] => []
  | .signal pkt :: log => pkt :: consumedOf log
  | .call _ _ :: log => consumedOf log
  | .quiet :: log => consumedOf log

/-- Signals waiting in `cfq`. -/
def signals (s : PairSys) : Nat := s.cfq.items.count .arpTxPkt

theorem acceptedOf_append (l l' : List PairObs) :
    acceptedOf (l ++ l') = acceptedOf l ++ acceptedOf l' := by
  induction l with
  | nil => rfl
  | cons o l ih =>
    cases o with
    | call pkt ret => cases ret <;> simp [acceptedOf, ih]
    | signal pkt => simp [acceptedOf, ih]
    | quiet => simp [acceptedOf, ih]

theorem consumedOf_append (l l' : List PairObs) :
    consumedOf (l ++ l') = consumedOf l ++ consumedOf l' := by
  induction l with
  | nil => rfl
  | cons o l ih => cases o <;> simp [consumedOf, ih]

/-- What a call does when the condition holds. -/
theorem arpSend_paired {s : PairSys} {pkt : ArpPkt}
    (hok : s.txq.hasRoom = true → s.cfq.hasRoom = true) :
    BothOrNeither s ⟨(arpSend s.txq s.cfq pkt).1, (arpSend s.txq s.cfq pkt).2.1⟩ pkt
      (arpSend s.txq s.cfq pkt).2.2 := by
  unfold arpSend
  by_cases hroom : s.txq.hasRoom = true
  · rw [Fifo.push_of_room hroom]
    dsimp only
    rw [Fifo.push_of_room (hok hroom)]
    exact .inl ⟨rfl, rfl, rfl⟩
  · rw [show s.txq.push pkt = none from if_neg hroom]
    exact .inr ⟨rfl, rfl⟩

theorem step_call {s : PairSys} {a : PairAct} {pkt : ArpPkt} (ha : pktOf a = some pkt)
    (hok : PairOk s a) :
    ∃ ret, (step s a).2 = .call pkt ret ∧ BothOrNeither s (step s a).1 pkt ret := by
  have hroom := hok (by rw [ha]; exact Option.some_ne_none pkt)
  cases a with
  | request remoteIp localMac localIp =>
    cases ha
    exact ⟨_, rfl, arpSend_paired hroom⟩
  | reply localMac localIp remoteMac remoteIp =>
    cases ha
    exact ⟨_, rfl, arpSend_paired hroom⟩
  | send msg => cases ha
  | poll => cases ha

/-- The queues are in step: each packet on `txq` has its signal, and what was
transmitted and what waits is what was accepted. -/
structure Paired (log : List PairObs) (s : PairSys) : Prop where
  signals : s.signals = s.txq.items.length
  order : consumedOf log ++ s.txq.items.map some = (acceptedOf log).map some

theorem Paired.quiet {log : List PairObs} {s : PairSys} (h : Paired log s) :
    Paired (log ++ [.quiet]) s := by
  refine ⟨h.signals, ?_⟩
  rw [consumedOf_append, acceptedOf_append]
  simp [consumedOf, acceptedOf, h.order]

theorem Paired.call {log : List PairObs} {s s' : PairSys} {pkt : ArpPkt} {ret : Bool}
    (h : Paired log s) (hb : BothOrNeither s s' pkt ret) : Paired (log ++ [.call pkt ret]) s' := by
  rcases hb with ⟨rfl, htx, hcf⟩ | ⟨rfl, rfl⟩
  · constructor
    · unfold PairSys.signals
      rw [htx, hcf, List.count_append, List.length_append, ← h.signals]
      rfl
    · rw [consumedOf_append, acceptedOf_append, htx, List.map_append, List.map_append,
        ← h.order]
      simp [consumedOf, acceptedOf]
  · refine ⟨h.signals, ?_⟩
    rw [consumedOf_append, acceptedOf_append]
    simp [consumedOf, acceptedOf, h.order]

theorem Paired.step {log : List PairObs} {s : PairSys} {a : PairAct} (h : Paired log s)
    (hok : PairOk s a) : Paired (log ++ [(PairSys.step s a).2]) (PairSys.step s a).1 := by
  cases ha : pktOf a with
  | some pkt =>
    obtain ⟨ret, hobs, hb⟩ := step_call ha hok
    rw [hobs]
    exact h.call hb
  | none =>
    cases a with
    | request remoteIp localMac localIp => cases ha
    | reply localMac localIp remoteMac remoteIp => cases ha
    | send msg =>
      unfold PairSys.step
      dsimp only
      split
      · exact h.quiet
      · next hmsg =>
        split
        · exact h.quiet
        · next cfq hpush =>
          have hq := h.quiet
          refine ⟨?_, hq.order⟩
          unfold PairSys.signals
          rw [Fifo.push_items hpush, List.count_append, ← h.signals,
            List.count_singleton, beq_eq_false_iff_ne.mpr hmsg]
          rfl
    | poll =>
      unfold PairSys.step
      dsimp only
      cases hhead : s.cfq.head? with
      | none => exact h.quiet
      | some msg =>
        have hcons := Fifo.head_cons hhead
        have hsig := h.signals
        unfold PairSys.signals at hsig
        rw [hcons, List.count_cons] at hsig
        by_cases hmsg : msg = .arpTxPkt
        · -- the signal at the head belongs to the packet at the head
          rw [hmsg, if_pos (beq_self_eq_true _)] at hsig
          subst hmsg
          dsimp only
          unfold handleArpTxPkt
          cases htx : s.txq.head? with
          | none =>
            have hnil : s.txq.items = [] := List.head?_eq_none_iff.mp htx
            rw [hnil] at hsig
            cases hsig
          | some pkt =>
            have htxc := Fifo.head_cons htx
            constructor
            · unfold PairSys.signals
              dsimp only
              rw [htxc, List.length_cons] at hsig
              omega
            · rw [consumedOf_append, acceptedOf_append]
              have ho := h.order
              rw [htxc] at ho
              simpa [consumedOf, acceptedOf] using ho
        · rw [if_neg (fun he => hmsg (eq_of_beq he))] at hsig
          have hq : Paired (log ++ [.quiet]) { s with cfq := s.cfq.pop } := ⟨hsig, h.quiet.order⟩
          cases msg with
          | arpTxPkt => exact absurd rfl hmsg
          | arpUpdate ip mac => exact hq
          | mbufTx p => exact hq
          | other => exact hq

end PairSys

open PairSys

/-- **ARP packets and their signals stay paired** in every run in which no
call finds room for its packet and none for its signal: each call enqueues
both and returns `0` or neither and fails, the signals taken transmit the
packets accepted, in order, and each packet on `txq` has its signal. -/
theorem arp_pairing {s₀ s : PairSys} {log : List PairObs} (htx : s₀.txq.items = [])
    (hcf : .arpTxPkt ∉ s₀.cfq.items) (hr : Run PairOk PairSys.step s₀ log s) :
    (∀ a pkt, pktOf a = some pkt → PairOk s a →
        ∃ ret, (PairSys.step s a).2 = .call pkt ret ∧
          BothOrNeither s (PairSys.step s a).1 pkt ret) ∧
      s.signals = s.txq.items.length ∧
      consumedOf log ++ s.txq.items.map some = (acceptedOf log).map some := by
  have hinv : Paired log s := by
    refine Run.inv (I := Paired) ⟨?_, ?_⟩ (fun log s a h hok => h.step hok) hr
    · unfold PairSys.signals
      rw [htx]
      exact List.count_eq_zero.mpr hcf
    · rw [htx]
      rfl
  exact ⟨fun a pkt ha hok => step_call ha hok, hinv.signals, hinv.order⟩

/-- Two queues of two entries. -/
def freshPair : PairSys := ⟨⟨[], 2⟩, ⟨[], 2⟩⟩

/-- The address of this host. -/
def hostMac : EthAddr := ⟨2, 0, 0, 0, 0, 1⟩

/-- Two requests, with another message between them and the polls. -/
def pairRun : List PairAct :=
  [.request 1 hostMac 9, .send .other, .poll, .poll, .request 2 hostMac 9, .poll]

/-- Both requests are transmitted, in order. -/
theorem arp_pairing_two :
    consumedOf (execAll PairSys.step pairRun freshPair).1 =
        (acceptedOf (execAll PairSys.step pairRun freshPair).1).map some ∧
      acceptedOf (execAll PairSys.step pairRun freshPair).1 =
        [arpPkt hostMac ethBroadcast 9 1 arpOperRequest,
          arpPkt hostMac ethBroadcast 9 2 arpOperRequest] := by
  have hrun := @Run.execOk _ _ _ PairOk _ PairSys.step freshPair pairRun _ _ Run.nil (by decide)
  have hpair := (arp_pairing rfl (by decide) hrun).2.2
  rw [show (execAll PairSys.step pairRun freshPair).2.txq.items = [] from rfl] at hpair
  exact ⟨by simpa using hpair, by decide⟩

/-- The control queue is full of other messages when the first request is made. -/
def shiftedRun : List PairAct :=
  [.send .other, .send .other, .request 1 hostMac 9, .poll, .poll, .request 2 hostMac 9, .poll]

/-- The first request fails but leaves its packet; the signal of the second
transmits it, and the second packet stays without a signal. -/
theorem arp_pairing_shifted :
    acceptedOf (execAll PairSys.step shiftedRun freshPair).1 =
        [arpPkt hostMac ethBroadcast 9 2 arpOperRequest] ∧
      consumedOf (execAll PairSys.step shiftedRun freshPair).1 =
        [some (arpPkt hostMac ethBroadcast 9 1 arpOperRequest)] ∧
      (execAll PairSys.step shiftedRun freshPair).2.txq.items =
        [arpPkt hostMac ethBroadcast 9 2 arpOperRequest] ∧
      (execAll PairSys.step shiftedRun freshPair).2.signals = 0 := by
  decide

end Chamelio.Arp
