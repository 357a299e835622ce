import Chamelio.Lib.Run
import Chamelio.Udp.AppLib

/-!
# What `udp_sendto` accepts is what leaves

Sender, fast path and the release of ring space run on two copies of the
ring's indices. With `S` the datagrams accepted so far, `E` those that left,
and `R` the number of bytes the library has seen released:

- the library's head stands at `R`, the fast path's at the bytes of `E`;
- what separates the two is in flight to the application, and what separates
  `E` from `S` is in flight to the fast path, one entry a datagram;
- the ring holds the bytes from `E` up to `S`.

A datagram carries what its entry announces as long as that fits a packet.
A longer one is cut, and only what is left of it is released: from then on
the fast path's head stands before the bytes of every later datagram.

Mirroring notes: a step is one call of the library, one entry taken by the
fast path, or one entry taken by the library. Everything of a fast-path
context that is not this socket's is given anew with each event.
-/

namespace Chamelio.Udp

open Chamelio.Lib Chamelio.Pkt Chamelio.Fast

/-! ## Datagrams -/

/-- A payload and where it goes. -/
structure Datagram where
  payload : List UInt8
  ip : UInt32
  port : UInt16
  deriving DecidableEq

/-- What the receiver of a packet reads out of it. -/
def datagramOf (pkt : Nat → UInt8) : Datagram :=
  { payload := (List.range ((udpLen pkt 20).toNat - udpHdrSize)).map fun i => pkt (udpPktInnerSize + i)
    ip := ipDst pkt
    port := udpDst pkt 20 }

/-- The bytes of a list of datagrams, one after the other. -/
def stream (ds : List Datagram) : List UInt8 := ds.flatMap Datagram.payload

theorem stream_append (ds es : List Datagram) : stream (ds ++ es) = stream ds ++ stream es :=
  List.flatMap_append

theorem stream_singleton (d : Datagram) : stream [d] = d.payload := List.flatMap_singleton _ _

/-- What fits one packet. -/
def maxPayload (virtGre : Bool) : Nat :=
  min udpMaxPayload.toNat (fastEbpfPktRoom virtGre - udpPktInnerSize)

theorem maxPayload_bounds (virtGre : Bool) :
    maxPayload virtGre ≤ 1472 ∧ udpPktInnerSize + maxPayload virtGre ≤ fastEbpfPktRoom virtGre := by
  cases virtGre <;> decide

/-! ## Building a packet -/

/-- A length that fits is kept. -/
theorem txPayloadLen_fits {ctx : UdpCtx} {virtGre : Bool} {n : UInt32}
    (hroom : ctx.pktRoom = fastEbpfPktRoom virtGre) (hn : n.toNat ≤ maxPayload virtGre) :
    (txPayloadLen ctx n).toNat = n.toNat := by
  obtain ⟨hle, hfit⟩ := maxPayload_bounds virtGre
  have hcut : n.toUInt16.toNat = n.toNat := by
    rw [UInt32.toNat_toUInt16]
    exact Nat.mod_eq_of_lt (by omega)
  have hpkt : (UInt32.ofNat (ctx.pktRoom - udpPktInnerSize)).toNat =
      ctx.pktRoom - udpPktInnerSize := by
    apply UInt32.toNat_ofNat_of_lt'
    rw [hroom]
    cases virtGre <;> decide
  unfold txPayloadLen
  dsimp only
  have h₁ : ¬ n.toUInt16 > udpMaxPayload := by
    intro hgt
    have hgt' := UInt16.lt_iff_toNat_lt.mp hgt
    rw [hcut, show udpMaxPayload.toNat = 1472 from rfl] at hgt'
    omega
  rw [if_neg h₁]
  have h₂ : ¬ n.toUInt16.toUInt32 > UInt32.ofNat (ctx.pktRoom - udpPktInnerSize) := by
    intro hgt
    have hgt' := UInt32.lt_iff_toNat_lt.mp hgt
    rw [hpkt, UInt16.toNat_toUInt32, hcut, hroom] at hgt'
    omega
  rw [if_neg h₂]
  exact hcut

/-- The fields of the headers a receiver reads. -/
theorem txHdrBytes_fields (p : Nat → UInt8) (sock : UdpSock) (txPort : UInt16) (txIp : UInt32)
    (n : UInt16) :
    ipDst (txHdrBytes p sock txPort txIp n) = txIp ∧
      udpDst (txHdrBytes p sock txPort txIp n) 20 = txPort ∧
      udpLen (txHdrBytes p sock txPort txIp n) 20 = 8 + n := by
  unfold txHdrBytes ipDst udpDst udpLen
  dsimp only
  refine ⟨?_, ?_, ?_⟩
  · rw [be32_put16_ne _ _ (by omega), be32_put16_ne _ _ (by omega), be32_put16_ne _ _ (by omega),
      be32_put16_ne _ _ (by omega), be32_put32]
  · rw [be16_put16_ne _ _ (by omega), be16_put16]
  · rw [be16_put16]

/-- The copy out of the ring: the headers stay, the payload is read around
the end of the ring. -/
theorem txCopyPayload_pkt {ctx : UdpCtx} {sock : UdpSock} {n : UInt16}
    (hhead : sock.txHead.toNat < sock.txLen.toNat) (hlen : sock.txLen.toNat ≤ 2147483648) :
    (∀ i, i < udpPktInnerSize → (txCopyPayload ctx sock n).pkt i = ctx.pkt i) ∧
      ∀ i, i < n.toNat → (txCopyPayload ctx sock n).pkt (udpPktInnerSize + i) =
        ringRead ctx.shm sock.txOff.toNat sock.txLen.toNat sock.txHead.toNat n.toNat i := by
  have hn16 := n.toNat_lt
  have hsum : (sock.txHead + n.toUInt32).toNat = sock.txHead.toNat + n.toNat := by
    rw [toNat_add_of_lt (by rw [UInt16.toNat_toUInt32]; omega), UInt16.toNat_toUInt32]
  have hcmp : sock.txHead + n.toUInt32 ≤ sock.txLen ↔
      sock.txHead.toNat + n.toNat ≤ sock.txLen.toNat := by
    rw [UInt32.le_iff_toNat_le, hsum]
  unfold txCopyPayload ringRead
  dsimp only
  by_cases hfit : sock.txHead.toNat + n.toNat ≤ sock.txLen.toNat
  · rw [if_pos (hcmp.mpr hfit)]
    dsimp only
    refine ⟨fun i hi => blit_out (.inl hi), fun i hi => ?_⟩
    rw [if_pos hfit]
    exact blit_in hi
  · rw [if_neg (fun h => hfit (hcmp.mp h))]
    have hpart : (sock.txLen - sock.txHead).toUInt64.toNat =
        sock.txLen.toNat - sock.txHead.toNat := by
      rw [UInt32.toNat_toUInt64, toNat_sub_of_le (Nat.le_of_lt hhead)]
    have hrest : (n.toUInt64 - (sock.txLen - sock.txHead).toUInt64).toNat =
        n.toNat - (sock.txLen.toNat - sock.txHead.toNat) := by
      have hle : (sock.txLen - sock.txHead).toUInt64 ≤ n.toUInt64 := by
        rw [UInt64.le_iff_toNat_le, hpart, UInt16.toNat_toUInt64]
        omega
      rw [UInt64.toNat_sub_of_le _ _ hle, hpart, UInt16.toNat_toUInt64]
    dsimp only
    rw [hpart, hrest]
    refine ⟨fun i hi => ?_, fun i hi => ?_⟩
    · rw [blit_out (.inl (by omega)), blit_out (.inl hi)]
    · rw [if_neg hfit]
      by_cases hlt : i < sock.txLen.toNat - sock.txHead.toNat
      · rw [blit_out (.inl (by omega)), if_pos hlt]
        exact blit_in hlt
      · rw [if_neg hlt]
        have hpos : udpPktInnerSize + i = udpPktInnerSize +
            (sock.txLen.toNat - sock.txHead.toNat) +
            (i - (sock.txLen.toNat - sock.txHead.toNat)) := by omega
        rw [hpos, blit_in (by omega)]

/-- The datagram in the packet `handle_bump_tx` builds. -/
theorem txPacket_datagram {ctx : UdpCtx} {sock : UdpSock} {txPort : UInt16} {txIp : UInt32}
    {n : UInt16} (hhead : sock.txHead.toNat < sock.txLen.toNat)
    (hlen : sock.txLen.toNat ≤ 2147483648) (hmax : n.toNat ≤ 1472) :
    datagramOf (txCopyPayload { ctx with pkt := txHdrBytes ctx.pkt sock txPort txIp n } sock n).pkt =
      { payload := (List.range n.toNat).map
          (ringRead ctx.shm sock.txOff.toNat sock.txLen.toNat sock.txHead.toNat n.toNat)
        ip := txIp, port := txPort } := by
  obtain ⟨hip, hport, hudp⟩ := txHdrBytes_fields ctx.pkt sock txPort txIp n
  obtain ⟨hhdr, hpay⟩ :=
    @txCopyPayload_pkt { ctx with pkt := txHdrBytes ctx.pkt sock txPort txIp n } sock n hhead hlen
  have hlenField : (8 + n : UInt16).toNat = 8 + n.toNat := by
    rw [UInt16.toNat_add, show (8 : UInt16).toNat = 8 from rfl]
    omega
  have hip' := be32_congr (o := 16) (fun i _ hi => hhdr i (show i < 28 by omega))
  have hport' := be16_congr (o := 22) (fun i _ hi => hhdr i (show i < 28 by omega))
  have hudp' := be16_congr (o := 24) (fun i _ hi => hhdr i (show i < 28 by omega))
  unfold datagramOf
  refine Datagram.mk.injEq .. |>.mpr ⟨?_, hip'.trans hip, hport'.trans hport⟩
  have hcount : (udpLen (txCopyPayload
      { ctx with pkt := txHdrBytes ctx.pkt sock txPort txIp n } sock n).pkt 20).toNat - udpHdrSize =
      n.toNat := by
    rw [show udpLen _ 20 = _ from hudp'.trans hudp, hlenField]
    exact Nat.add_sub_cancel_left 8 n.toNat
  rw [hcount]
  apply List.map_congr_left
  intro i hi
  exact hpay i (List.mem_range.mp hi)

/-! ## The system -/

/-- Both sides of a socket as far as sending goes: the fast path's copy, the
library with its queues to the cores, the shared memory, and the queue of
bumps from the core that sends. -/
structure TxSys where
  sock : UdpSock
  lib : UdpLib
  shm : Nat → UInt8
  appQ : Fifo UdpQe

inductive TxAct
  | sendto (buf : List UInt8) (ip : UInt32) (port : UInt16)
  /-- The core takes an entry; `env` is what else its context holds. -/
  | deq (env : UdpCtx)
  /-- The library takes an entry. -/
  | poll

/-- What a step shows: a datagram `udp_sendto` took, or one that left, with
the length handed to the driver and the bytes released. -/
inductive TxOut
  | quiet
  | sent (d : Datagram)
  | emitted (d : Datagram) (len released : Nat)

namespace TxSys

/-- The socket's number on the fast path. -/
def sid (s : TxSys) : Nat := s.lib.sock.sockId.toNat

/-- The queue to the core the socket sends on. -/
def chamQ (s : TxSys) : Fifo UdpQe := s.lib.appFastQs s.lib.sock.txCore.toNat

/-- The number of the queue of bumps from that core. -/
def qid (s : TxSys) : Nat := (s.sock.appBumpQids s.lib.sock.txCore.toNat).toNat

/-- The context `event_deq` gets for an entry. -/
def load (virtGre : Bool) (s : TxSys) (env : UdpCtx) (e : UdpQe) : UdpCtx :=
  { env with
    pktRoom := fastEbpfPktRoom virtGre
    shm := s.shm
    qe := e
    equeues := fun i => if i = s.qid then s.appQ else env.equeues i
    maps := { env.maps with
      socks := fun i => if i = s.sid then s.sock else env.maps.socks i } }

/-- What the handler left of the socket and its queue. -/
def store (s : TxSys) (ctx : UdpCtx) : TxSys :=
  { s with sock := ctx.maps.socks s.sid, shm := ctx.shm, appQ := ctx.equeues s.qid }

end TxSys

/-- Bytes an entry to the fast path announces. -/
def chamTxBytes : UdpQe → Nat
  | .bumpChamTx _ _ _ _ n => n.toNat
  | _ => 0

/-- Bytes an entry to the application releases. -/
def appTxBytes : UdpQe → Nat
  | .bumpAppTx _ n => n.toNat
  | _ => 0

namespace TxSys

/-- One entry of the queue to the fast path: a handler that fails leaves it
there. -/
def deq (virtGre : Bool) (s : TxSys) (env : UdpCtx) : TxSys × TxOut :=
  match s.chamQ.head? with
  | none => (s, .quiet)
  | some e =>
    match udpEventDeq (s.load virtGre env e) with
    | (ctx, none) => (s.store ctx, .quiet)
    | (ctx, some n) =>
      ({ s.store ctx with lib := s.lib.setQueue s.lib.sock.txCore.toNat s.chamQ.pop },
        .emitted (datagramOf ctx.pkt) n ((s.store ctx).appQ.sum appTxBytes - s.appQ.sum appTxBytes))

/-- One iteration of `udp_poll_fast`. -/
def poll (s : TxSys) : TxSys :=
  match s.appQ.head? with
  | none => s
  | some e =>
    match libHandleEntry s.lib.sock e with
    | none => s
    | some sock => { s with lib := { s.lib with sock }, appQ := s.appQ.pop }

def sendto (s : TxSys) (buf : List UInt8) (ip : UInt32) (port : UInt16) : TxSys × TxOut :=
  match udpSendto s.lib s.shm buf ip port with
  | (lib, shm, ret) =>
    ({ s with lib, shm },
      if ret = 0 ∨ ret = -1 then .quiet else .sent { payload := buf, ip, port })

def step (virtGre : Bool) (s : TxSys) : TxAct → TxSys × TxOut
  | .sendto buf ip port => s.sendto buf ip port
  | .deq env => s.deq virtGre env
  | .poll => (s.poll, .quiet)

end TxSys

/-- A socket as `handle_new_sock` and the library set it up. -/
structure TxInit (s : TxSys) : Prop where
  lenPos : 0 < s.lib.sock.txLen.toNat
  lenBound : s.lib.sock.txLen.toNat ≤ 2147483648
  txLen : s.sock.txLen = s.lib.sock.txLen
  txOff : s.sock.txOff = s.lib.sock.txBuf
  core : s.lib.sock.txCore.toNat < maxFpCores
  fast : s.sock.txHead = 0
  lib : s.lib.sock.txHead = 0 ∧ s.lib.sock.txAvail = 0
  cham : s.chamQ.items = []
  app : s.appQ.items = []

/-- A dequeue that gets as far as the application's queue finds room there. -/
def NoAppFail (virtGre : Bool) (s : TxSys) (env : UdpCtx) : Prop :=
  match s.chamQ.head? with
  | none => True
  | some e => (txBindPort (s.load virtGre env e) s.sid).2 = true → s.appQ.hasRoom = true

instance (virtGre : Bool) (s : TxSys) (env : UdpCtx) : Decidable (NoAppFail virtGre s env) := by
  unfold NoAppFail
  split <;> infer_instance

/-- What is accepted fits one packet, and no bump to the application is
lost. -/
def TxOk (virtGre : Bool) (s : TxSys) : TxAct → Prop
  | .sendto buf _ _ =>
    buf.length ≤ (s.lib.sock.txLen - s.lib.sock.txAvail).toNat → buf.length ≤ maxPayload virtGre
  | .deq env => NoAppFail virtGre s env
  | .poll => True

instance (virtGre : Bool) (s : TxSys) (a : TxAct) : Decidable (TxOk virtGre s a) := by
  cases a <;> unfold TxOk <;> infer_instance

/-- The datagrams accepted, in order. -/
def sentOf (log : List TxOut) : List Datagram :=
  log.filterMap fun
    | .sent d => some d
    | _ => none

/-- The datagrams that left, in order. -/
def emittedOf (log : List TxOut) : List Datagram :=
  log.filterMap fun
    | .emitted d _ _ => some d
    | _ => none

/-! ## The invariant -/

/-- The entry that announces a datagram. -/
def entryOf (sock : UdpSocketLib) (d : Datagram) : UdpQe :=
  .bumpChamTx sock.sockId sock.txCore d.port d.ip (UInt32.ofNat d.payload.length)

/-- Both sides' counters, what is in flight, and the ring, with `S` accepted,
`P` of these still to leave after `E`, and `R` bytes released. -/
structure TxInv (virtGre : Bool) (E P : List Datagram) (R : Nat) (s : TxSys) : Prop where
  lenPos : 0 < s.lib.sock.txLen.toNat
  lenBound : s.lib.sock.txLen.toNat ≤ 2147483648
  txLen : s.sock.txLen = s.lib.sock.txLen
  txOff : s.sock.txOff = s.lib.sock.txBuf
  core : s.lib.sock.txCore.toNat < maxFpCores
  cham : s.chamQ.items = P.map (entryOf s.lib.sock)
  fits : ∀ d ∈ P, 0 < d.payload.length ∧ d.payload.length ≤ maxPayload virtGre
  mine : ∀ e ∈ s.appQ.items, ∃ o n, e = .bumpAppTx o n
  fastHead : s.sock.txHead.toNat = (stream E).length % s.lib.sock.txLen.toNat
  libHead : s.lib.sock.txHead.toNat = R % s.lib.sock.txLen.toNat
  released : R + s.appQ.sum appTxBytes = (stream E).length
  avail : R + s.lib.sock.txAvail.toNat = (stream E).length + (stream P).length
  bound : s.lib.sock.txAvail.toNat ≤ s.lib.sock.txLen.toNat
  holds : Holds s.shm s.lib.sock.txBuf.toNat s.lib.sock.txLen.toNat (stream E).length
    ((stream E).length + (stream P).length) (fun o => (stream (E ++ P)).getD o 0)

theorem TxInit.inv {virtGre : Bool} {s : TxSys} (h : TxInit s) : TxInv virtGre [] [] 0 s := by
  refine ⟨h.lenPos, h.lenBound, h.txLen, h.txOff, h.core, h.cham, ?_, ?_, ?_, ?_, ?_, ?_, ?_, ?_⟩
  · intro d hd
    exact absurd hd (by simp)
  · rw [h.app]
    intro e he
    exact absurd he (by simp)
  · rw [h.fast]
    exact (Nat.zero_mod _).symm
  · rw [h.lib.1]
    exact (Nat.zero_mod _).symm
  · unfold Fifo.sum
    rw [h.app]
    rfl
  · rw [h.lib.2]
    rfl
  · rw [h.lib.2]
    exact Nat.zero_le _
  · intro o _ hhi
    exact absurd hhi (Nat.not_lt_zero o)

/-! ## A call of `udp_sendto` -/

/-- The split copy into the ring. -/
theorem libCopyIn_eq {sock : UdpSocketLib} (shm : Nat → UInt8) (buf : List UInt8) {n : UInt32}
    (hhead : sock.txHead.toNat < sock.txLen.toNat)
    (hfit : sock.txAvail.toNat + n.toNat ≤ sock.txLen.toNat)
    (hov : sock.txHead.toNat + sock.txLen.toNat < 4294967296) :
    libCopyIn sock shm buf n =
      ringWrite shm sock.txBuf.toNat sock.txLen.toNat
        ((sock.txHead.toNat + sock.txAvail.toNat) % sock.txLen.toNat)
        (fun k => buf.getD k 0) n.toNat := by
  rw [← ringWrite_words shm sock.txBuf.toNat (fun k => buf.getD k 0) hhead hfit hov]
  unfold libCopyIn
  dsimp only
  by_cases h : wrapAdd sock.txHead sock.txAvail sock.txLen + n ≤ sock.txLen
  · rw [if_neg (UInt32.not_lt.mpr h), if_pos h]
  · rw [if_pos (UInt32.not_le.mp h), if_neg h]

section step

variable {virtGre : Bool} {E P : List Datagram} {R : Nat} {s : TxSys}

theorem TxInv.free (h : TxInv virtGre E P R s) :
    (s.lib.sock.txLen - s.lib.sock.txAvail).toNat =
      s.lib.sock.txLen.toNat - s.lib.sock.txAvail.toNat :=
  toNat_sub_of_le h.bound

theorem TxInv.headLt (h : TxInv virtGre E P R s) :
    s.lib.sock.txHead.toNat < s.lib.sock.txLen.toNat := by
  rw [h.libHead]
  exact Nat.mod_lt _ h.lenPos

/-- What the ring holds after the next datagram was copied behind it. -/
theorem TxInv.copied (h : TxInv virtGre E P R s) {d : Datagram} {n : UInt32}
    (hn : n.toNat = d.payload.length)
    (hfit : s.lib.sock.txAvail.toNat + n.toNat ≤ s.lib.sock.txLen.toNat) :
    Holds (libCopyIn s.lib.sock s.shm d.payload n) s.lib.sock.txBuf.toNat s.lib.sock.txLen.toNat
      (stream E).length ((stream E).length + (stream (P ++ [d])).length)
      (fun o => (stream (E ++ (P ++ [d]))).getD o 0) := by
  have hlen := h.lenBound
  have hhead := h.headLt
  have hrel := h.released
  have hav := h.avail
  have hpos : (s.lib.sock.txHead.toNat + s.lib.sock.txAvail.toNat) % s.lib.sock.txLen.toNat =
      ((stream E).length + (stream P).length) % s.lib.sock.txLen.toNat := by
    rw [h.libHead, Nat.mod_add_mod, hav]
  have hbytes : stream (E ++ (P ++ [d])) = stream (E ++ P) ++ d.payload := by
    rw [← List.append_assoc, stream_append (E ++ P), stream_singleton]
  have hcount : (stream (E ++ P)).length = (stream E).length + (stream P).length := by
    rw [stream_append, List.length_append]
  have hold := h.holds
  rw [← hcount] at hold
  have hw := @Holds.append _ _ _ _ _ _ d.payload (fun k => d.payload.getD k 0) _ h.lenPos
    (by omega) (by omega) (fun i _ => rfl) hold
  rw [libCopyIn_eq s.shm d.payload hhead hfit (by omega), hpos, ← hcount, hn]
  have hlast : (stream E).length + (stream (P ++ [d])).length =
      (stream (E ++ P) ++ d.payload).length := by
    rw [stream_append P, stream_singleton, List.length_append, List.length_append, hcount]
    omega
  rw [hlast, hbytes]
  exact hw

/-- **A call of `udp_sendto`** changes nothing, or appends its datagram. -/
theorem TxInv.sendto (h : TxInv virtGre E P R s) {buf : List UInt8} {ip : UInt32} {port : UInt16}
    (hok : TxOk virtGre s (.sendto buf ip port)) :
    ((s.sendto buf ip port).2 = .quiet ∧ (s.sendto buf ip port).1 = s) ∨
    ((s.sendto buf ip port).2 = .sent { payload := buf, ip, port } ∧
      TxInv virtGre E (P ++ [{ payload := buf, ip, port }]) R (s.sendto buf ip port).1) := by
  unfold TxSys.sendto udpSendto
  dsimp only
  by_cases hzero : buf.length = 0
  · rw [if_pos hzero]
    exact .inl ⟨if_pos (.inl rfl), rfl⟩
  · rw [if_neg hzero]
    by_cases hfull : buf.length > (s.lib.sock.txLen - s.lib.sock.txAvail).toNat
    · rw [if_pos hfull]
      exact .inl ⟨if_pos (.inr rfl), rfl⟩
    · rw [if_neg hfull]
      cases hpush : (s.lib.appFastQs s.lib.sock.txCore.toNat).push
          (.bumpChamTx s.lib.sock.sockId s.lib.sock.txCore port ip (UInt32.ofNat buf.length)) with
      | none => exact .inl ⟨if_pos (.inr rfl), rfl⟩
      | some q =>
        dsimp only
        have hmax : buf.length ≤ maxPayload virtGre := hok (by omega)
        have hsmall := (maxPayload_bounds virtGre).1
        have hlen := h.lenBound
        rw [h.free] at hfull
        have hn : (UInt32.ofNat buf.length).toNat = buf.length :=
          UInt32.toNat_ofNat_of_lt' (show buf.length < 4294967296 by omega)
        have hadd : (s.lib.sock.txAvail + UInt32.ofNat buf.length).toNat =
            s.lib.sock.txAvail.toNat + buf.length := by
          rw [toNat_add_of_lt (by omega), hn]
        have hret : 0 < s32 (UInt32.ofNat buf.length) := by
          rw [s32_pos_iff, hn]
          omega
        have hav := h.avail
        refine .inr ⟨if_neg (by omega), h.lenPos, h.lenBound, h.txLen, h.txOff, h.core, ?_, ?_,
          h.mine, h.fastHead, h.libHead, h.released, ?_, ?_, ?_⟩
        · show (if s.lib.sock.txCore.toNat = s.lib.sock.txCore.toNat then q else _).items = _
          rw [if_pos rfl, Fifo.push_items hpush, List.map_append]
          exact congrArg (· ++ _) h.cham
        · intro d hd
          rcases List.mem_append.mp hd with hd | hd
          · exact h.fits d hd
          · rw [List.mem_singleton.mp hd]
            exact ⟨by show 0 < buf.length; omega, hmax⟩
        · show R + (s.lib.sock.txAvail + UInt32.ofNat buf.length).toNat = _
          rw [hadd, stream_append, stream_singleton, List.length_append]
          show _ = (stream E).length + ((stream P).length + buf.length)
          omega
        · show (s.lib.sock.txAvail + UInt32.ofNat buf.length).toNat ≤ _
          rw [hadd]
          show _ ≤ s.lib.sock.txLen.toNat
          omega
        · exact h.copied (d := { payload := buf, ip, port }) hn (by omega)

/-! ## An entry taken by the library -/

theorem TxInv.poll (h : TxInv virtGre E P R s) : ∃ R', TxInv virtGre E P R' s.poll := by
  unfold TxSys.poll
  cases hhead : s.appQ.head? with
  | none => exact ⟨R, h⟩
  | some e =>
    obtain ⟨o, n, rfl⟩ := h.mine e (Fifo.head_mem hhead)
    have hsum := Fifo.pop_sum appTxBytes hhead
    change _ = n.toNat + _ at hsum
    have hrel := h.released
    have hav := h.avail
    have hb := h.bound
    have hlen := h.lenBound
    have hsub : (s.lib.sock.txAvail - n).toNat = s.lib.sock.txAvail.toNat - n.toNat :=
      toNat_sub_of_le (by omega)
    refine ⟨R + n.toNat, h.lenPos, h.lenBound, h.txLen, h.txOff, h.core, h.cham, h.fits, ?_,
      h.fastHead, ?_, ?_, ?_, ?_, h.holds⟩
    · intro e he
      exact h.mine e (Fifo.pop_mem he)
    · show (wrapAdd s.lib.sock.txHead n s.lib.sock.txLen).toNat = _
      rw [toNat_wrapAdd h.headLt (by omega) (by have := h.headLt; omega), h.libHead,
        Nat.mod_add_mod]
      rfl
    · show R + n.toNat + s.appQ.pop.sum appTxBytes = _
      omega
    · show R + n.toNat + (s.lib.sock.txAvail - n).toNat = _
      omega
    · show (s.lib.sock.txAvail - n).toNat ≤ s.lib.sock.txLen.toNat
      omega

/-! ## An entry taken by the fast path -/

/-- Binding a socket that has no port touches its port and the port map. -/
theorem txBindPort_frame (ctx : UdpCtx) (sid : Nat) :
    (txBindPort ctx sid).1.shm = ctx.shm ∧ (txBindPort ctx sid).1.equeues = ctx.equeues ∧
      (txBindPort ctx sid).1.pktRoom = ctx.pktRoom ∧ (txBindPort ctx sid).1.pkt = ctx.pkt ∧
      (∃ p, sockOf (txBindPort ctx sid).1 sid = { sockOf ctx sid with localPort := p }) ∧
      ((txBindPort ctx sid).2 = false → sockOf (txBindPort ctx sid).1 sid = sockOf ctx sid) := by
  have hfind : ∃ np, (findFreePort ctx).1 = { ctx with maps := { ctx.maps with nextPort := np } } := by
    unfold findFreePort
    split
    · exact ⟨ctx.maps.nextPort, rfl⟩
    · dsimp only
      split
      · exact ⟨ctx.maps.nextPort, rfl⟩
      · exact ⟨_, rfl⟩
  obtain ⟨np, hfind⟩ := hfind
  unfold txBindPort
  dsimp only
  split
  · exact ⟨rfl, rfl, rfl, rfl, ⟨_, rfl⟩, nofun⟩
  · rw [hfind]
    split
    · exact ⟨rfl, rfl, rfl, rfl, ⟨_, rfl⟩, fun _ => rfl⟩
    · refine ⟨rfl, rfl, rfl, rfl, ⟨(findFreePort ctx).2, ?_⟩, nofun⟩
      rw [sockOf_setSock]

/-- What one packet takes of the socket and the queue, when it fits. -/
theorem txSend_spec {ctx : UdpCtx} {virtGre : Bool} {sid : Nat} {core txPort : UInt16}
    {txIp n : UInt32} (hroom : ctx.pktRoom = fastEbpfPktRoom virtGre)
    (hn : n.toNat ≤ maxPayload virtGre)
    (hhead : (sockOf ctx sid).txHead.toNat < (sockOf ctx sid).txLen.toNat)
    (hlen : (sockOf ctx sid).txLen.toNat ≤ 2147483648)
    (happ : (ctx.equeues ((sockOf ctx sid).appBumpQids core.toNat).toNat).hasRoom = true) :
    ∃ ctx' m, txSend ctx sid core txPort txIp n = (ctx', some (udpPktInnerSize + n.toNat)) ∧
      m.toNat = n.toNat ∧ ctx'.shm = ctx.shm ∧
      sockOf ctx' sid = txSockBump (sockOf ctx sid) n m ∧
      (ctx.equeues ((sockOf ctx sid).appBumpQids core.toNat).toNat).push
          (.bumpAppTx (sockOf ctx sid).opaquePtr m.toUInt32) =
        some (ctx'.equeues ((sockOf ctx sid).appBumpQids core.toNat).toNat) ∧
      datagramOf ctx'.pkt =
        { payload := (List.range n.toNat).map (ringRead ctx.shm (sockOf ctx sid).txOff.toNat
            (sockOf ctx sid).txLen.toNat (sockOf ctx sid).txHead.toNat n.toNat)
          ip := txIp, port := txPort } := by
  have hm := txPayloadLen_fits hroom hn
  obtain ⟨hmax, hpkt⟩ := maxPayload_bounds virtGre
  generalize hmdef : txPayloadLen ctx n = m at hm
  have hframe : ∀ c : UdpCtx, (txCopyPayload c (sockOf ctx sid) m).shm = c.shm ∧
      (txCopyPayload c (sockOf ctx sid) m).equeues = c.equeues := by
    intro c
    unfold txCopyPayload
    dsimp only
    split
    · exact ⟨rfl, rfl⟩
    · exact ⟨rfl, rfl⟩
  have hd := @txPacket_datagram ctx (sockOf ctx sid) txPort txIp m hhead hlen (by omega)
  have hf := hframe { ctx with pkt := txHdrBytes ctx.pkt (sockOf ctx sid) txPort txIp m }
  unfold txSend
  dsimp only
  rw [hmdef, if_neg (by rw [hroom]; omega)]
  generalize txCopyPayload
    { ctx with pkt := txHdrBytes ctx.pkt (sockOf ctx sid) txPort txIp m } (sockOf ctx sid) m = c
    at hd hf
  have hq : (setSock c sid (txSockBump (sockOf ctx sid) n m)).equeues = ctx.equeues := hf.2
  rw [hq, Fifo.push_of_room happ, hm]
  refine ⟨_, m, rfl, hm, hf.1, ?_, ?_, ?_⟩
  · exact sockOf_setSock c sid _
  · rw [EbpfCtx.setQueue_self, Fifo.push_of_room happ]
  · rw [hm] at hd
    exact hd

/-- A handler that left the socket, the ring and the queue alone. -/
theorem TxSys.store_same {ctx : UdpCtx} (hsock : sockOf ctx s.sid = s.sock) (hshm : ctx.shm = s.shm)
    (hq : ctx.equeues s.qid = s.appQ) : s.store ctx = s := by
  unfold TxSys.store
  rw [show ctx.maps.socks s.sid = s.sock from hsock, hshm, hq]

theorem TxSys.sockOf_load (e : UdpQe) (env : UdpCtx) :
    sockOf (s.load virtGre env e) s.sid = s.sock := if_pos rfl

theorem TxSys.queue_load (e : UdpQe) (env : UdpCtx) :
    (s.load virtGre env e).equeues s.qid = s.appQ := if_pos rfl

/-- The bytes read out of the ring are those of the next datagram. -/
theorem TxInv.nextPayload {d : Datagram} {P' : List Datagram}
    (h : TxInv virtGre E (d :: P') R s) :
    (List.range d.payload.length).map (ringRead s.shm s.lib.sock.txBuf.toNat
        s.lib.sock.txLen.toNat ((stream E).length % s.lib.sock.txLen.toNat) d.payload.length) =
      d.payload := by
  have hcount : (stream (d :: P')).length = d.payload.length + (stream P').length := by
    rw [← List.singleton_append, stream_append, stream_singleton, List.length_append]
  have hrel := h.released
  have hav := h.avail
  have hb := h.bound
  have hholds := h.holds
  rw [show E ++ d :: P' = E ++ [d] ++ P' by simp, stream_append, stream_append,
    stream_singleton] at hholds
  exact hholds.readPart h.lenPos (Nat.le_refl _) (by omega) (by omega)

/-- The state after the next datagram left. -/
theorem TxInv.left {d : Datagram} {P' : List Datagram} (h : TxInv virtGre E (d :: P') R s)
    {sock : UdpSock} {appQ : Fifo UdpQe} {m : UInt16} {o : UInt64}
    (hm : m.toNat = d.payload.length) (htail : s.chamQ.pop.items = P'.map (entryOf s.lib.sock))
    (hlen : sock.txLen = s.sock.txLen) (hoff : sock.txOff = s.sock.txOff)
    (hhead : sock.txHead = wrapAdd s.sock.txHead m.toUInt32 s.sock.txLen)
    (hpush : s.appQ.push (.bumpAppTx o m.toUInt32) = some appQ) :
    TxInv virtGre (E ++ [d]) P' R
      { s with sock, appQ, lib := s.lib.setQueue s.lib.sock.txCore.toNat s.chamQ.pop } := by
  have hcount : (stream (d :: P')).length = d.payload.length + (stream P').length := by
    rw [← List.singleton_append, stream_append, stream_singleton, List.length_append]
  have hcountE : (stream (E ++ [d])).length = (stream E).length + d.payload.length := by
    rw [stream_append, stream_singleton, List.length_append]
  have hrel := h.released
  have hav := h.avail
  have hb := h.bound
  have hlenB := h.lenBound
  have hlt : s.sock.txHead.toNat < s.sock.txLen.toNat := by
    rw [h.fastHead, h.txLen]
    exact Nat.mod_lt _ h.lenPos
  have hm32 : m.toUInt32.toNat = d.payload.length := by rw [UInt16.toNat_toUInt32, hm]
  refine ⟨h.lenPos, h.lenBound, hlen.trans h.txLen, hoff.trans h.txOff, h.core, ?_, ?_, ?_, ?_,
    h.libHead, ?_, ?_, h.bound, ?_⟩
  · show (if s.lib.sock.txCore.toNat = s.lib.sock.txCore.toNat then s.chamQ.pop else _).items = _
    rw [if_pos rfl]
    exact htail
  · intro d' hd'
    exact h.fits d' (List.mem_cons_of_mem _ hd')
  · intro e he
    rcases (Fifo.mem_push hpush).mp he with he | he
    · exact h.mine e he
    · exact ⟨o, m.toUInt32, he⟩
  · show sock.txHead.toNat = _ % s.lib.sock.txLen.toNat
    have hlt' := hlt
    rw [h.txLen] at hlt'
    rw [hhead, toNat_wrapAdd hlt (by rw [hm32, h.txLen]; omega) (by rw [hm32]; omega), hm32,
      h.fastHead, h.txLen, Nat.mod_add_mod, hcountE]
  · show R + appQ.sum appTxBytes = _
    rw [Fifo.push_sum appTxBytes hpush, hcountE]
    show R + (s.appQ.sum appTxBytes + m.toUInt32.toNat) = _
    omega
  · show R + s.lib.sock.txAvail.toNat = _
    omega
  · show Holds s.shm s.lib.sock.txBuf.toNat s.lib.sock.txLen.toNat _ _ _
    rw [hcountE, List.append_assoc, List.singleton_append]
    exact h.holds.shrink (by omega) (by omega)

/-- **The fast path on an announcement that fits a packet**: it fails before
it has changed the socket, the ring or the queue, or it builds the packet,
moves its head and tells the application. -/
theorem udpEventDeq_tx {ctx : UdpCtx} {sock : UdpSock} {appQ : Fifo UdpQe} {sockId : UInt32}
    {core port : UInt16} {ip n : UInt32}
    (hqe : ctx.qe = .bumpChamTx sockId core port ip n)
    (hroom : ctx.pktRoom = fastEbpfPktRoom virtGre) (hcore : core.toNat < maxFpCores)
    (hsock : sockOf ctx sockId.toNat = sock)
    (hqueue : ctx.equeues (sock.appBumpQids core.toNat).toNat = appQ)
    (hn : n.toNat ≤ maxPayload virtGre) (hhead : sock.txHead.toNat < sock.txLen.toNat)
    (hlen : sock.txLen.toNat ≤ 2147483648)
    (happ : (txBindPort ctx sockId.toNat).2 = true → appQ.hasRoom = true) :
    ∃ ctx', ctx'.shm = ctx.shm ∧
      ((udpEventDeq ctx = (ctx', none) ∧ sockOf ctx' sockId.toNat = sock ∧
          ctx'.equeues (sock.appBumpQids core.toNat).toNat = appQ) ∨
        (udpEventDeq ctx = (ctx', some (udpPktInnerSize + n.toNat)) ∧
          ∃ p m, m.toNat = n.toNat ∧
            sockOf ctx' sockId.toNat = txSockBump { sock with localPort := p } n m ∧
            appQ.push (.bumpAppTx sock.opaquePtr m.toUInt32) =
              some (ctx'.equeues (sock.appBumpQids core.toNat).toNat) ∧
            datagramOf ctx'.pkt =
              { payload := (List.range n.toNat).map (ringRead ctx.shm sock.txOff.toNat
                  sock.txLen.toNat sock.txHead.toNat n.toNat)
                ip, port })) := by
  unfold udpEventDeq
  rw [hqe]
  split
  · exact ⟨ctx, rfl, .inl ⟨rfl, hsock, hqueue⟩⟩
  · unfold handleBumpTx
    dsimp only
    rw [if_neg (by rw [hroom]; cases virtGre <;> decide), if_neg (by omega)]
    obtain ⟨hbshm, hbq, hbroom, -, ⟨p, hbsock⟩, hbfalse⟩ := txBindPort_frame ctx sockId.toNat
    cases hbind : txBindPort ctx sockId.toNat with
    | mk c ok =>
      rw [hbind] at hbshm hbq hbroom hbsock hbfalse happ
      dsimp only at hbshm hbq hbroom hbsock hbfalse happ
      cases ok with
      | false =>
        refine ⟨c, hbshm, .inl ⟨rfl, (hbfalse rfl).trans hsock, ?_⟩⟩
        rw [hbq]
        exact hqueue
      | true =>
        rw [hsock] at hbsock
        have hq : (sockOf c sockId.toNat).appBumpQids = sock.appBumpQids := by rw [hbsock]
        obtain ⟨ctx', m, hsend, hm, hshm, hsock', hpush, hd⟩ :=
          @txSend_spec c virtGre sockId.toNat core port ip n (hbroom.trans hroom) hn
            (by rw [hbsock]; exact hhead) (by rw [hbsock]; exact hlen)
            (by rw [hq, hbq, hqueue]; exact happ rfl)
        rw [hq, hbq, hqueue, hbsock] at hpush
        rw [hbsock] at hsock'
        rw [hbsock, hbshm] at hd
        exact ⟨ctx', hshm.trans hbshm, .inr ⟨hsend, p, m, hm, hsock', hpush, hd⟩⟩

/-- **A packet leaves**: the entry's datagram, whole, and its bytes are
released. Or the handler fails before it has changed anything. -/
theorem TxInv.deq (h : TxInv virtGre E P R s) {env : UdpCtx} (hok : NoAppFail virtGre s env) :
    ((s.deq virtGre env).2 = .quiet ∧ TxInv virtGre E P R (s.deq virtGre env).1) ∨
    ∃ d P', P = d :: P' ∧ (s.deq virtGre env).2 =
        .emitted d (udpPktInnerSize + d.payload.length) d.payload.length ∧
      TxInv virtGre (E ++ [d]) P' R (s.deq virtGre env).1 := by
  unfold TxSys.deq
  unfold NoAppFail at hok
  cases hhead : s.chamQ.head? with
  | none => exact .inl ⟨rfl, h⟩
  | some e =>
    rw [hhead] at hok
    have hitems := h.cham
    rw [Fifo.head_cons hhead] at hitems
    cases P with
    | nil => exact absurd hitems (by simp)
    | cons d P' =>
      obtain ⟨he, htail⟩ := List.cons.inj hitems
      obtain ⟨hdpos, hdmax⟩ := h.fits d List.mem_cons_self
      have hn : (UInt32.ofNat d.payload.length).toNat = d.payload.length := by
        have := (maxPayload_bounds virtGre).1
        exact UInt32.toNat_ofNat_of_lt' (show d.payload.length < 4294967296 by omega)
      have hcount : (stream (d :: P')).length = d.payload.length + (stream P').length := by
        rw [← List.singleton_append, stream_append, stream_singleton, List.length_append]
      have hrel := h.released
      have hav := h.avail
      have hb := h.bound
      have hlt : s.sock.txHead.toNat < s.sock.txLen.toNat := by
        rw [h.fastHead, h.txLen]
        exact Nat.mod_lt _ h.lenPos
      obtain ⟨ctx', hshm, hcase⟩ := @udpEventDeq_tx virtGre (s.load virtGre env e) s.sock s.appQ _
        _ _ _ (UInt32.ofNat d.payload.length) he rfl h.core
        (TxSys.sockOf_load e env) (TxSys.queue_load e env) (by omega) hlt
        (by rw [h.txLen]; exact h.lenBound) hok
      dsimp only
      rcases hcase with ⟨hdeq, hsock, hq⟩ | ⟨hdeq, p, m, hm, hsock, hpush, hd⟩
      · rw [hdeq]
        refine .inl ⟨rfl, ?_⟩
        dsimp only
        rw [TxSys.store_same hsock hshm hq]
        exact h
      · rw [hdeq]
        refine .inr ⟨d, P', rfl, ?_, ?_⟩
        · have hsum : (s.store ctx').appQ.sum appTxBytes =
              s.appQ.sum appTxBytes + d.payload.length := by
            have hs := Fifo.push_sum appTxBytes hpush
            change (s.store ctx').appQ.sum appTxBytes = _ + m.toUInt32.toNat at hs
            rw [hs, UInt16.toNat_toUInt32, hm, hn]
          have hpay : (List.range d.payload.length).map (ringRead s.shm s.sock.txOff.toNat
              s.sock.txLen.toNat s.sock.txHead.toNat d.payload.length) = d.payload := by
            rw [h.txOff, h.fastHead, h.txLen]
            exact h.nextPayload
          dsimp only
          rw [hn, hsum, Nat.add_sub_cancel_left]
          rw [hn, show (s.load virtGre env e).shm = s.shm from rfl, hpay] at hd
          rw [hd]
        · have hleft := @TxInv.left virtGre E R s d P' h (sockOf ctx' s.sid) (ctx'.equeues s.qid) m
            s.sock.opaquePtr (hm.trans hn) htail
            (by rw [show sockOf ctx' s.sid = _ from hsock]; rfl)
            (by rw [show sockOf ctx' s.sid = _ from hsock]; rfl)
            (by rw [show sockOf ctx' s.sid = _ from hsock]; rfl) hpush
          dsimp only
          unfold TxSys.store
          dsimp only
          rw [hshm]
          exact hleft

end step

/-! ## Every run -/

/-- What is in the log is in order with the state. -/
def TxLogged (virtGre : Bool) (log : List TxOut) (s : TxSys) : Prop :=
  (∃ P R, sentOf log = emittedOf log ++ P ∧ TxInv virtGre (emittedOf log) P R s) ∧
    ∀ d len released, .emitted d len released ∈ log →
      len = udpPktInnerSize + d.payload.length ∧ released = d.payload.length

theorem sentOf_append (log : List TxOut) (o : TxOut) :
    sentOf (log ++ [o]) = sentOf log ++ sentOf [o] := List.filterMap_append

theorem emittedOf_append (log : List TxOut) (o : TxOut) :
    emittedOf (log ++ [o]) = emittedOf log ++ emittedOf [o] := List.filterMap_append

/-- A step that shows nothing. -/
theorem TxLogged.quiet {virtGre : Bool} {log : List TxOut} {s s' : TxSys} {P : List Datagram}
    {R : Nat} (h : TxLogged virtGre log s) (hsent : sentOf log = emittedOf log ++ P)
    (hinv : TxInv virtGre (emittedOf log) P R s') : TxLogged virtGre (log ++ [.quiet]) s' := by
  have hsame : emittedOf (log ++ [.quiet]) = emittedOf log := by
    rw [emittedOf_append]
    exact List.append_nil _
  refine ⟨⟨P, R, ?_, ?_⟩, fun d len released hmem => ?_⟩
  · rw [hsame, sentOf_append, ← hsent]
    exact List.append_nil _
  · rw [hsame]
    exact hinv
  · rcases List.mem_append.mp hmem with hmem | hmem
    · exact h.2 d len released hmem
    · exact absurd (List.mem_singleton.mp hmem) nofun

/-- One step keeps the log and the state in order. -/
theorem TxLogged.step {virtGre : Bool} {log : List TxOut} {s : TxSys} {a : TxAct}
    (h : TxLogged virtGre log s) (hok : TxOk virtGre s a) :
    TxLogged virtGre (log ++ [(s.step virtGre a).2]) (s.step virtGre a).1 := by
  obtain ⟨⟨P, R, hsent, hinv⟩, hall⟩ := id h
  cases a with
  | sendto buf ip port =>
    show TxLogged virtGre (log ++ [(s.sendto buf ip port).2]) (s.sendto buf ip port).1
    rcases hinv.sendto hok with ⟨hq, hs⟩ | ⟨hq, hinv'⟩
    · rw [hq, hs]
      exact h.quiet hsent hinv
    · rw [hq]
      have hsame : emittedOf (log ++ [.sent { payload := buf, ip, port }]) = emittedOf log := by
        rw [emittedOf_append]
        exact List.append_nil _
      refine ⟨⟨P ++ [{ payload := buf, ip, port }], R, ?_, ?_⟩, fun d len released hmem => ?_⟩
      · rw [hsame, sentOf_append, hsent, List.append_assoc]
        rfl
      · rw [hsame]
        exact hinv'
      · rcases List.mem_append.mp hmem with hmem | hmem
        · exact hall d len released hmem
        · exact absurd (List.mem_singleton.mp hmem) nofun
  | poll =>
    obtain ⟨R', hinv'⟩ := hinv.poll
    exact h.quiet hsent hinv'
  | deq env =>
    show TxLogged virtGre (log ++ [(s.deq virtGre env).2]) (s.deq virtGre env).1
    rcases hinv.deq hok with ⟨hq, hinv'⟩ | ⟨d, P', rfl, hq, hinv'⟩
    · rw [hq]
      exact h.quiet hsent hinv'
    · rw [hq]
      refine ⟨⟨P', R, ?_, ?_⟩, fun d' len released hmem => ?_⟩
      · rw [sentOf_append, emittedOf_append, hsent]
        show (emittedOf log ++ d :: P') ++ [] = (emittedOf log ++ [d]) ++ P'
        rw [List.append_nil, List.append_assoc]
        rfl
      · rw [emittedOf_append]
        exact hinv'
      · rcases List.mem_append.mp hmem with hmem | hmem
        · exact hall d' len released hmem
        · obtain ⟨rfl, rfl, rfl⟩ := TxOut.emitted.inj (List.mem_singleton.mp hmem)
          exact ⟨rfl, rfl⟩

theorem TxLogged.run {virtGre : Bool} {s₀ s : TxSys} {log : List TxOut} (h₀ : TxInit s₀)
    (hrun : Run (TxOk virtGre) (TxSys.step virtGre) s₀ log s) : TxLogged virtGre log s := by
  refine hrun.inv (I := TxLogged virtGre) ?_ (fun _ _ _ h hok => h.step hok)
  exact ⟨⟨[], 0, rfl, h₀.inv⟩, fun _ _ _ hmem => absurd hmem (by simp)⟩

/-- What the entries to the fast path announce. -/
theorem TxInv.announced {virtGre : Bool} {E P : List Datagram} {R : Nat} {s : TxSys}
    (h : TxInv virtGre E P R s) : s.chamQ.sum chamTxBytes = (stream P).length := by
  have hmax := (maxPayload_bounds virtGre).1
  have hsum : ∀ ds : List Datagram, (∀ d ∈ ds, d.payload.length ≤ maxPayload virtGre) →
      ((ds.map (entryOf s.lib.sock)).map chamTxBytes).sum = (stream ds).length := by
    intro ds hds
    induction ds with
    | nil => rfl
    | cons d ds ih =>
      have hd := hds d List.mem_cons_self
      rw [List.map_cons, List.map_cons, List.sum_cons, ih fun x hx => hds x (List.mem_cons_of_mem _ hx),
        ← List.singleton_append, stream_append, stream_singleton, List.length_append]
      congr 1
      exact UInt32.toNat_ofNat_of_lt' (show d.payload.length < 4294967296 by omega)
  unfold Fifo.sum
  rw [h.cham]
  exact hsum P fun d hd => (h.fits d hd).2

/-- Every length is one a packet takes, and no bump to the application is
lost. -/
def SendsFit (virtGre : Bool) (s : TxSys) : TxAct → Prop
  | .sendto buf _ _ => 1 ≤ buf.length ∧ buf.length ≤ maxPayload virtGre
  | .deq env => NoAppFail virtGre s env
  | .poll => True

instance (virtGre : Bool) (s : TxSys) (a : TxAct) : Decidable (SendsFit virtGre s a) := by
  cases a <;> unfold SendsFit <;> infer_instance

/-- **Transmit fidelity.** In every run, what the library counts is what the
two queues hold, within the ring, and the datagrams accepted are those that
left followed by those the entries in the queue stand for. -/
theorem udp_tx_faithful {virtGre : Bool} {s₀ s : TxSys} {log : List TxOut} (h₀ : TxInit s₀)
    (hrun : Run (SendsFit virtGre) (TxSys.step virtGre) s₀ log s) :
    s.lib.sock.txAvail.toNat = s.chamQ.sum chamTxBytes + s.appQ.sum appTxBytes ∧
      s.lib.sock.txAvail.toNat ≤ s.lib.sock.txLen.toNat ∧
      ∃ pending, sentOf log = emittedOf log ++ pending ∧
        s.chamQ.items = pending.map (entryOf s.lib.sock) := by
  have hrun' : Run (TxOk virtGre) (TxSys.step virtGre) s₀ log s := by
    refine hrun.mono ?_
    intro s a hok
    cases a with
    | sendto buf ip port => exact fun _ => hok.2
    | deq env => exact hok
    | poll => trivial
  obtain ⟨⟨P, R, hsent, hinv⟩, -⟩ := TxLogged.run h₀ hrun'
  have hrel := hinv.released
  have hav := hinv.avail
  refine ⟨?_, hinv.bound, P, hsent, hinv.cham⟩
  rw [hinv.announced]
  omega

/-- **Lengths.** In every run whose accepted datagrams fit a packet, the k-th
datagram that left is the k-th accepted, with all of its bytes, and exactly
these were released. -/
theorem udp_tx_lengths {virtGre : Bool} {s₀ s : TxSys} {log : List TxOut} (h₀ : TxInit s₀)
    (hrun : Run (TxOk virtGre) (TxSys.step virtGre) s₀ log s) :
    emittedOf log <+: sentOf log ∧
      ∀ d len released, .emitted d len released ∈ log →
        len = udpPktInnerSize + d.payload.length ∧ released = d.payload.length := by
  obtain ⟨⟨P, R, hsent, -⟩, hall⟩ := TxLogged.run h₀ hrun
  exact ⟨⟨P, hsent.symm⟩, hall⟩

/-! ## Runs -/

/-- A socket with a ring of `len` bytes, bound to port 2000. -/
def freshTx (len : UInt32) : TxSys :=
  { sock :=
      { id := 3, opaquePtr := 0xa0, txCore := 0, rxCore := -1, appBumpQids := fun _ => 0,
        localIp := 7, localPort := 2000, reuport := false, rxLen := 0, rxAvail := 0, rxHead := 0,
        rxOff := 0, txLen := len, txAvail := 0, txHead := 0, txOff := 0 }
    lib :=
      { sock :=
          { sockId := 3, txCore := 0, rxCore := 0, rxPort := 0, rxIp := 0, txPort := 0, txIp := 0,
            rxLen := 0, rxAvail := 0, rxHead := 0, rxBuf := 0, txLen := len, txAvail := 0,
            txHead := 0, txBuf := 0 }
        appFastQs := fun _ => { items := [], nelems := 4 } }
    shm := fun _ => 0
    appQ := { items := [], nelems := 4 } }

/-- What else a core's context holds: nothing of interest. -/
def blankEnv : UdpCtx :=
  { pkt := fun _ => 0, pktRoom := 1500, shm := fun _ => 0, shmLen := 128, sched := Util.schedInit
    qe := .unknown, qeOff := 0, ncores := 1, core := 0
    dqueues := fun _ => { q := { items := [], nelems := 4 }, off := 0, elsize := 32, head := 0 }
    equeues := fun _ => { items := [], nelems := 4 }
    maps :=
      { ports := fun _ => { nsocks := 0, nextSock := fun _ => 0, sids := fun _ => 0 }
        socks := fun _ => (freshTx 0).sock
        sockNelems := 8, nextPort := some 1002 }
    clk := { readings := fun _ => 0, reads := 0, tscToUs := id, cyclesPerUs := 1 } }

theorem freshTx_init {len : UInt32} (hpos : 0 < len.toNat) (hlen : len.toNat ≤ 2147483648) :
    TxInit (freshTx len) :=
  ⟨hpos, hlen, rfl, rfl, show 0 < 16 by decide, rfl, ⟨rfl, rfl⟩, rfl, rfl⟩

/-- Around the end of a ring of four bytes. -/
def wrapRun : List TxAct :=
  [.sendto [1, 2, 3] 9 53, .deq blankEnv, .poll, .sendto [4, 5] 9 54, .deq blankEnv]

/-- The second datagram wraps and arrives whole. -/
theorem udp_tx_faithful_wrap :
    sentOf (execAll (TxSys.step false) wrapRun (freshTx 4)).1 =
        emittedOf (execAll (TxSys.step false) wrapRun (freshTx 4)).1 ++ [] ∧
      emittedOf (execAll (TxSys.step false) wrapRun (freshTx 4)).1 =
        [{ payload := [1, 2, 3], ip := 9, port := 53 }, { payload := [4, 5], ip := 9, port := 54 }] := by
  have hrun := @Run.execOk _ _ _ (SendsFit false) _ (TxSys.step false) (freshTx 4) wrapRun _ _
    Run.nil (by decide)
  obtain ⟨-, -, pending, hsent, hpend⟩ := udp_tx_faithful (freshTx_init (by decide) (by decide)) hrun
  have hnil : pending = [] := List.map_eq_nil_iff.mp hpend.symm
  rw [hnil] at hsent
  exact ⟨hsent, by decide⟩

/-- The same run meets the condition on lengths. -/
theorem udp_tx_lengths_wrap :
    emittedOf (execAll (TxSys.step false) wrapRun (freshTx 4)).1 <+:
      sentOf (execAll (TxSys.step false) wrapRun (freshTx 4)).1 := by
  have hrun := @Run.execOk _ _ _ (TxOk false) _ (TxSys.step false) (freshTx 4) wrapRun _ _
    Run.nil (by decide)
  exact (udp_tx_lengths (freshTx_init (by decide) (by decide)) hrun).1

/-- One byte more than a packet takes, and one byte behind it. -/
def oversizeRun : List TxAct :=
  [.sendto (List.replicate 1473 1) 9 53, .sendto [7] 9 53, .deq blankEnv, .deq blankEnv]

/-- The lengths and releases of a log. -/
def lengthsOf (log : List TxOut) : List (Nat × Nat) :=
  log.filterMap fun
    | .emitted _ len released => some (len, released)
    | _ => none

/-- Both calls are accepted. The first datagram leaves without its last byte
and releases one byte too few; the second one carries that byte. -/
theorem udp_tx_lengths_oversize :
    (sentOf (execAll (TxSys.step false) oversizeRun (freshTx 4096)).1).map (·.payload.length) =
        [1473, 1] ∧
      lengthsOf (execAll (TxSys.step false) oversizeRun (freshTx 4096)).1 =
        [(1500, 1472), (29, 1)] ∧
      ((emittedOf (execAll (TxSys.step false) oversizeRun (freshTx 4096)).1).map (·.payload))[1]? =
        some [1] ∧
      ¬ emittedOf (execAll (TxSys.step false) oversizeRun (freshTx 4096)).1 <+:
        sentOf (execAll (TxSys.step false) oversizeRun (freshTx 4096)).1 := by
  have hsent : (sentOf (execAll (TxSys.step false) oversizeRun (freshTx 4096)).1).map
      (·.payload.length) = [1473, 1] := by decide +kernel
  have hlens : lengthsOf (execAll (TxSys.step false) oversizeRun (freshTx 4096)).1 =
      [(1500, 1472), (29, 1)] := by decide +kernel
  have hlast : ((emittedOf (execAll (TxSys.step false) oversizeRun (freshTx 4096)).1).map
      (·.payload))[1]? = some [1] := by decide +kernel
  refine ⟨hsent, hlens, hlast, fun hpre => ?_⟩
  have hlast' : ((sentOf (execAll (TxSys.step false) oversizeRun (freshTx 4096)).1).map
      (·.payload))[1]? = some [7] := by decide +kernel
  obtain ⟨rest, hrest⟩ := List.IsPrefix.map (·.payload) hpre
  rw [← hrest, List.getElem?_append_left (List.getElem?_eq_some_iff.mp hlast).1, hlast] at hlast'
  exact absurd hlast' (by decide)

end Chamelio.Udp
