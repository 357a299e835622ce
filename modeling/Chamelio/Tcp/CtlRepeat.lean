import Chamelio.Tcp.Graceful

/-!
# Control segments sent again

A SYN, a SYN-ACK and a FIN go out through `tcp_ctl_tx` with the number
`tx_seq`, the window of the socket and the timestamp option. Two places send
them again. The retransmission timer takes the number from the end of what
is pending and hands the segment to `tcp_ctl_tx_reply`, which is made for
answers without a socket and knows neither window nor timestamp.
`tcp_ctl_tx_resend`, for a SYN that arrives twice, counts one back from
`tx_seq` as if the acknowledgement had already moved it.

Mirroring notes:
- `CtlSent` says that a sender found room and which entry it queued.
- The layout of the options is the data offset, kind and length; the value
  in the option changes with time.
-/

namespace Chamelio.Tcp

open Chamelio.Lib Chamelio.Util Chamelio.Pkt Chamelio.Fast

/-! ## The fields of a control packet -/

theorem pktOf_ctlPkt (c : CtlSeg) {i : Nat} (hi : i < ctlPktSize) :
    pktOf ((List.range ctlPktSize).map (ctlPktFill c)) i = ctlPktFill c i := by
  unfold pktOf
  rw [List.getD_eq_getElem?_getD, List.getElem?_map, List.getElem?_range hi]
  rfl

/-- Data offset and flags share two bytes. -/
private theorem offset_flags {w : UInt16} (hw : w.toNat < 16) (f : UInt16) :
    ((w <<< 12) ||| (f &&& 0x1ff)).toNat / 4096 = w.toNat := by
  have hf : (f &&& 0x1ff).toNat < 512 := by
    rw [UInt16.toNat_and]
    exact Nat.lt_of_le_of_lt Nat.and_le_right (by decide)
  have hs : (w <<< 12).toNat = w.toNat * 4096 := by
    rw [UInt16.toNat_shiftLeft]
    show w.toNat <<< 12 % 65536 = _
    rw [Nat.shiftLeft_eq]
    omega
  rw [UInt16.toNat_or, hs, show (4096 : Nat) = 2 ^ 12 from rfl, ← Nat.shiftRight_eq_div_pow,
    Nat.shiftRight_or_distrib, Nat.shiftRight_eq_div_pow, Nat.shiftRight_eq_div_pow,
    Nat.mul_div_cancel _ (by decide), Nat.div_eq_of_lt (by omega), Nat.or_zero]

/-- What a control packet says about itself. -/
structure CtlFields (p : Nat → UInt8) (c : CtlSeg) : Prop where
  seqno : tcpSeqno p = c.seq
  ackno : tcpAckno p = c.ack
  wnd : tcpWnd p = c.wnd
  hdrlen : tcphHdrlen p = c.hdrWords.toNat

/-- The option lies behind the fields of the header. -/
private theorem ctlPktFill_header (c : CtlSeg) : ∃ p : Nat → UInt8, ∀ i, i < 40 →
    ctlPktFill c i = put16 (put16 (put32 p 28 c.ack) 32
      ((c.hdrWords <<< 12) ||| (c.flags &&& 0x1ff))) 34 c.wnd i := by
  unfold ctlPktFill
  dsimp only
  cases c.tsRecent with
  | none => exact ⟨_, fun i _ => rfl⟩
  | some ts =>
    apply Exists.intro
    intro i hi
    dsimp only
    rw [put32_out _ _ (by omega), put8_ne _ _ (by omega), put8_ne _ _ (by omega)]

theorem ctlPkt_fields (c : CtlSeg) :
    CtlFields (pktOf ((List.range ctlPktSize).map (ctlPktFill c))) c := by
  have h16 : ∀ o, o + 2 ≤ 40 → be16 (pktOf ((List.range ctlPktSize).map (ctlPktFill c))) o =
      be16 (ctlPktFill c) o := by
    intro o ho
    exact be16_congr fun i _ _ => pktOf_ctlPkt c (show i < 54 by omega)
  have h32 : ∀ o, o + 4 ≤ 40 → be32 (pktOf ((List.range ctlPktSize).map (ctlPktFill c))) o =
      be32 (ctlPktFill c) o := by
    intro o ho
    exact be32_congr fun i _ _ => pktOf_ctlPkt c (show i < 54 by omega)
  have hw : c.hdrWords.toNat < 16 := by
    unfold CtlSeg.hdrWords
    split <;> decide
  obtain ⟨p, hp⟩ := ctlPktFill_header c
  refine ⟨tcpSeqno_ctlPkt c, ?_, ?_, ?_⟩
  · unfold tcpAckno
    rw [h32 28 (by omega)]
    rw [be32_congr fun i _ _ => hp i (by omega)]
    rw [be32_put16_ne _ _ (by omega), be32_put16_ne _ _ (by omega), be32_put32]
  · unfold tcpWnd
    rw [h16 34 (by omega)]
    rw [be16_congr fun i _ _ => hp i (by omega)]
    rw [be16_put16]
  · have hword : be16 (ctlPktFill c) 32 = (c.hdrWords <<< 12) ||| (c.flags &&& 0x1ff) := by
      rw [be16_congr fun i _ _ => hp i (by omega)]
      rw [be16_put16_ne _ _ (by omega), be16_put16]
    unfold tcphHdrlen
    rw [h16 32 (by omega), hword, offset_flags hw]

/-! ## The three senders -/

/-- A sender found room and queued `bytes`. -/
def CtlSent (ctx : TcpSlowCtx) (r : TcpSlowCtx × Bool) (bytes : List UInt8) : Prop :=
  r.2 = true ∧ r.1.slowFastPktQ.items = ctx.slowFastPktQ.items ++ [.ctlTxPkt bytes]

theorem ctlPktEnqueue_sent {ctx : TcpSlowCtx} {c : CtlSeg} {bytes : List UInt8}
    (h : CtlSent ctx (ctlPktEnqueue ctx c) bytes) :
    bytes = (List.range ctlPktSize).map (ctlPktFill c) := by
  obtain ⟨hok, hitems⟩ := h
  have hpush := Fifo.push_items (ctlPktEnqueue_pktQ hok)
  rw [hpush] at hitems
  have hlast := List.append_cancel_left hitems
  cases hlast
  rfl

/-- The same number, acknowledgement, flags, window and options layout. -/
structure Repeats (p q : Nat → UInt8) : Prop where
  seqno : tcpSeqno q = tcpSeqno p
  ackno : tcpAckno q = tcpAckno p
  flags : tcphFlags q = tcphFlags p
  wnd : tcpWnd q = tcpWnd p
  hdrlen : tcphHdrlen q = tcphHdrlen p
  option : tcpHlen < tcphHdrlen p * 4 → q 40 = p 40 ∧ q 41 = p 41

/-- The sequence state of the socket is the same. -/
structure SameSeq (s s' : TcpSock) : Prop where
  txSeq : s'.txSeq = s.txSeq
  txPending : s'.txPending = s.txPending
  rxSeq : s'.rxSeq = s.rxSeq

/-- How the segment of the timer differs from the original: it has no
options and a zero window, and its number is the original one only if one
byte is pending. -/
structure TimerDiffers (s : TcpSock) (orig retx : Nat → UInt8) : Prop where
  options : tcphHdrlen orig = 8 ∧ tcphHdrlen retx = 5
  wnd : tcpWnd retx = 0
  ackno : tcpAckno retx = tcpAckno orig
  seqno : tcpSeqno retx = tcpSeqno orig ↔ s.txPending = 1

/-- How the segment of `tcp_ctl_tx_resend` differs: its number is one less. -/
structure ResendDiffers (orig resent : Nat → UInt8) : Prop where
  seqno : tcpSeqno resent = tcpSeqno orig - 1
  ackno : tcpAckno resent = tcpAckno orig
  options : tcphHdrlen resent = tcphHdrlen orig

private theorem u32_sub_one_ne (x : UInt32) : x - 1 ≠ x := by
  intro h
  have hx := x.toNat_lt
  have h' := congrArg UInt32.toNat h
  rw [UInt32.toNat_sub] at h'
  have : (1 : UInt32).toNat = 1 := rfl
  omega

section senders

variable {ctx ctx' : TcpSlowCtx} {sid : Nat} {flags : UInt16} {orig : List UInt8}

/-- The original: number and window of the socket, and its timestamp. -/
theorem tcpCtlTx_sent (h : CtlSent ctx (tcpCtlTx ctx sid flags) orig) :
    CtlFields (pktOf orig) (sockCtlSeg (ctx.sock sid) (ctx.sock sid).txSeq flags) := by
  rw [ctlPktEnqueue_sent h]
  exact ctlPkt_fields _

theorem sockRetxTx_differs (h : CtlSent ctx (tcpCtlTx ctx sid flags) orig)
    (hsame : SameSeq (ctx.sock sid) (ctx'.sock sid)) {retx : List UInt8}
    (hretx : CtlSent ctx' (sockRetxTx ctx' sid) retx) :
    TimerDiffers (ctx'.sock sid) (pktOf orig) (pktOf retx) := by
  have horig := tcpCtlTx_sent h
  unfold sockRetxTx at hretx
  dsimp only at hretx
  split at hretx
  · cases hretx.1
  · next flags' hf =>
    have hnew := ctlPkt_fields { localIp := (ctx'.sock sid).localIp
                                 localPort := (ctx'.sock sid).localPort
                                 remoteIp := (ctx'.sock sid).remoteIp
                                 remotePort := (ctx'.sock sid).remotePort
                                 seq := sockRetxSeq (ctx'.sock sid), ack := (ctx'.sock sid).rxSeq
                                 flags := flags', wnd := 0, tsRecent := none }
    rw [← ctlPktEnqueue_sent hretx] at hnew
    refine ⟨⟨horig.hdrlen, hnew.hdrlen⟩, hnew.wnd, ?_, ?_⟩
    · rw [hnew.ackno, horig.ackno]
      exact hsame.rxSeq
    · rw [hnew.seqno, horig.seqno]
      show sockRetxSeq (ctx'.sock sid) = (ctx.sock sid).txSeq ↔ _
      unfold sockRetxSeq
      rw [hsame.txSeq]
      constructor
      · intro heq
        have h' := congrArg UInt32.toNat heq
        rw [UInt32.toNat_sub, UInt32.toNat_add] at h'
        have := (ctx.sock sid).txSeq.toNat_lt
        have := (ctx'.sock sid).txPending.toNat_lt
        have h1 : (1 : UInt32).toNat = 1 := rfl
        exact UInt32.toNat_inj.mp (by omega)
      · intro heq
        rw [heq, UInt32.add_sub_cancel]

theorem tcpCtlTxResend_differs (h : CtlSent ctx (tcpCtlTx ctx sid flags) orig)
    (hsame : SameSeq (ctx.sock sid) (ctx'.sock sid))
    (hctl : flags &&& (tcpSyn ||| tcpFin) ≠ 0) {resent : List UInt8}
    (hres : CtlSent ctx' (tcpCtlTxResend ctx' sid flags) resent) :
    ResendDiffers (pktOf orig) (pktOf resent) := by
  have horig := tcpCtlTx_sent h
  unfold tcpCtlTxResend at hres
  dsimp only at hres
  rw [if_pos hctl] at hres
  have hnew := ctlPkt_fields (sockCtlSeg (ctx'.sock sid) ((ctx'.sock sid).txSeq - 1) flags)
  rw [← ctlPktEnqueue_sent hres] at hnew
  refine ⟨?_, ?_, hnew.hdrlen.trans horig.hdrlen.symm⟩
  · rw [hnew.seqno, horig.seqno]
    show (ctx'.sock sid).txSeq - 1 = (ctx.sock sid).txSeq - 1
    rw [hsame.txSeq]
  · rw [hnew.ackno, horig.ackno]
    exact hsame.rxSeq

/-- The flags of a control segment have SYN or FIN. -/
theorem sockRetxFlags_ctl {s : TcpSock} {kind : RetxKind} (h : sockRetxFlags s kind = some flags) :
    flags &&& (tcpSyn ||| tcpFin) ≠ 0 := by
  unfold sockRetxFlags synFlags synackFlags at h
  cases kind with
  | syn =>
    cases h
    split <;> decide
  | synack =>
    cases h
    split <;> decide
  | fin =>
    cases h
    decide
  | none => cases h

/-- **No control segment is repeated.** Whatever SYN, SYN-ACK or FIN a
socket sent, as long as its sequence state stays, the segment of its timer
lacks the options and the window of the original, and the one of
`tcp_ctl_tx_resend` has another number. -/
theorem control_segment_never_repeated
    (hflags : sockRetxFlags (ctx.sock sid) (timerKind (ctx.sock sid).state) = some flags)
    (hsent : CtlSent ctx (tcpCtlTx ctx sid flags) orig)
    (hsame : SameSeq (ctx.sock sid) (ctx'.sock sid)) :
    (∀ retx, CtlSent ctx' (sockRetxTx ctx' sid) retx →
      ¬ Repeats (pktOf orig) (pktOf retx) ∧
        TimerDiffers (ctx'.sock sid) (pktOf orig) (pktOf retx)) ∧
    (∀ resent, CtlSent ctx' (tcpCtlTxResend ctx' sid flags) resent →
      ¬ Repeats (pktOf orig) (pktOf resent) ∧ ResendDiffers (pktOf orig) (pktOf resent)) := by
  constructor
  · intro retx hretx
    have hdiff := sockRetxTx_differs hsent hsame hretx
    refine ⟨fun hrep => ?_, hdiff⟩
    have hlen := hrep.hdrlen
    rw [hdiff.options.1, hdiff.options.2] at hlen
    exact absurd hlen (by decide)
  · intro resent hres
    have hdiff := tcpCtlTxResend_differs hsent hsame (sockRetxFlags_ctl hflags) hres
    refine ⟨fun hrep => ?_, hdiff⟩
    have hseq := hrep.seqno
    rw [hdiff.seqno] at hseq
    exact u32_sub_one_ne _ hseq

end senders

/-- A socket that is about to send its SYN to port 80 of `10.0.0.2`. -/
def connecting : TcpSlowCtx :=
  freshSlow.setSock 0
    (connectSock freshSlow { TcpSock.zero with rxLen := 4096, localPort := 2000 } 0x0a000002 80)

/-- The SYN as it was sent first. -/
def firstSyn : List UInt8 :=
  (List.range ctlPktSize).map
    (ctlPktFill (sockCtlSeg (connecting.sock 0) (connecting.sock 0).txSeq tcpSyn))

/-- The socket waits for the answer, its timer armed. -/
def synWaiting : TcpSlowCtx := (tcpTimeoutArm (tcpCtlTx connecting 0 tcpSyn).1 0 .syn).1

/-- The SYN of the timer. -/
def timerSyn : List UInt8 :=
  (List.range ctlPktSize).map (ctlPktFill
    { localIp := (synWaiting.sock 0).localIp, localPort := (synWaiting.sock 0).localPort
      remoteIp := (synWaiting.sock 0).remoteIp, remotePort := (synWaiting.sock 0).remotePort
      seq := sockRetxSeq (synWaiting.sock 0), ack := (synWaiting.sock 0).rxSeq, flags := tcpSyn
      wnd := 0, tsRecent := none })

/-- The SYN of `tcp_ctl_tx_resend`. -/
def resentSyn : List UInt8 :=
  (List.range ctlPktSize).map (ctlPktFill
    (sockCtlSeg (synWaiting.sock 0) ((synWaiting.sock 0).txSeq - 1) tcpSyn))

theorem firstSyn_sent : CtlSent connecting (tcpCtlTx connecting 0 tcpSyn) firstSyn := ⟨rfl, rfl⟩

theorem timerSyn_sent : CtlSent synWaiting (sockRetxTx synWaiting 0) timerSyn := ⟨rfl, rfl⟩

theorem resentSyn_sent : CtlSent synWaiting (tcpCtlTxResend synWaiting 0 tcpSyn) resentSyn :=
  ⟨rfl, rfl⟩

theorem synWaiting_same : SameSeq (connecting.sock 0) (synWaiting.sock 0) := ⟨rfl, rfl, rfl⟩

/-- The timer's SYN has no options and a zero window, the resent one the
number before the original's. -/
theorem timer_syn_differs :
    (connecting.sock 0).state = .synSent ∧
    CtlSent connecting (tcpCtlTx connecting 0 tcpSyn) firstSyn ∧
    SameSeq (connecting.sock 0) (synWaiting.sock 0) ∧
    CtlSent synWaiting (sockRetxTx synWaiting 0) timerSyn ∧
    ¬ Repeats (pktOf firstSyn) (pktOf timerSyn) ∧
    CtlSent synWaiting (tcpCtlTxResend synWaiting 0 tcpSyn) resentSyn ∧
    ¬ Repeats (pktOf firstSyn) (pktOf resentSyn) := by
  have htimer := sockRetxTx_differs firstSyn_sent synWaiting_same timerSyn_sent
  have hres := tcpCtlTxResend_differs firstSyn_sent synWaiting_same (by decide) resentSyn_sent
  refine ⟨rfl, firstSyn_sent, synWaiting_same, timerSyn_sent, ?_, resentSyn_sent, ?_⟩
  · intro hrep
    have hwnd := hrep.wnd
    rw [htimer.wnd, (tcpCtlTx_sent firstSyn_sent).wnd] at hwnd
    exact absurd hwnd (by decide)
  · intro hrep
    have hseq := hrep.seqno
    rw [hres.seqno] at hseq
    exact u32_sub_one_ne _ hseq

theorem control_segment_never_repeated_syn :
    ¬ Repeats (pktOf firstSyn) (pktOf timerSyn) ∧ ¬ Repeats (pktOf firstSyn) (pktOf resentSyn) := by
  have h := control_segment_never_repeated (show sockRetxFlags (connecting.sock 0)
    (timerKind (connecting.sock 0).state) = some tcpSyn from rfl) firstSyn_sent synWaiting_same
  exact ⟨(h.1 timerSyn timerSyn_sent).1, (h.2 resentSyn resentSyn_sent).1⟩

end Chamelio.Tcp
