import Chamelio.Tcp.AppLib
import Chamelio.Tcp.FastRx

/-!
# The four ring copies

`tcp_sendto` and `rx_copy_payload` write a ring, `tx_copy_payload` and
`tcp_recvfrom` read one. Each computes its index in 32-bit words and splits
the copy at the end of the ring; here each is shown to be the ring
operation of `Lib.Ring`, as long as head plus length does not pass 2³².
-/

namespace Chamelio.Tcp

open Chamelio.Lib Chamelio.Util Chamelio.Pkt Chamelio.Fast

/-- `rx_copy_payload` is a ring write behind the available bytes. -/
theorem rxCopyPayload_shm {ctx : TcpCtx} {sock : TcpSock} (src : Nat) {b : UInt32}
    (hhead : sock.rxHead.toNat < sock.rxLen.toNat)
    (hfit : sock.rxAvail.toNat + b.toNat ≤ sock.rxLen.toNat)
    (hov : sock.rxHead.toNat + sock.rxLen.toNat < 4294967296) :
    (rxCopyPayload ctx sock src b).shm =
      ringWrite ctx.shm sock.rxOff.toNat sock.rxLen.toNat
        ((sock.rxHead.toNat + sock.rxAvail.toNat) % sock.rxLen.toNat)
        (fun i => ctx.pkt (src + i)) b.toNat := by
  rw [← ringWrite_words ctx.shm sock.rxOff.toNat (fun i => ctx.pkt (src + i)) hhead hfit hov]
  unfold rxCopyPayload
  dsimp only
  split
  · rfl
  · simp only [Nat.add_assoc]

/-- `tcp_sendto` copies behind the bytes the ring holds. -/
theorem libCopyIn_eq {sock : TcpSocketLib} (shm : Nat → UInt8) (buf : List UInt8) {n : UInt32}
    (hhead : sock.txHead.toNat < sock.txLen.toNat)
    (hfit : sock.txAvail.toNat + n.toNat ≤ sock.txLen.toNat)
    (hov : sock.txHead.toNat + sock.txLen.toNat < 4294967296) :
    libCopyIn sock shm buf n =
      ringWrite shm sock.txBuf.toNat sock.txLen.toNat
        ((sock.txHead.toNat + sock.txAvail.toNat) % sock.txLen.toNat)
        (fun k => buf.getD k 0) n.toNat := by
  rw [← ringWrite_words shm sock.txBuf.toNat (fun k => buf.getD k 0) hhead hfit hov]
  unfold libCopyIn
  dsimp only
  by_cases h : wrapAdd sock.txHead sock.txAvail sock.txLen + n ≤ sock.txLen
  · rw [if_neg (UInt32.not_lt.mpr h), if_pos h]
  · rw [if_pos (UInt32.not_le.mp h), if_neg h]

/-- `tx_copy_payload` puts the bytes behind the pending ones into the
packet, and nothing before the payload changes. -/
theorem txCopyPayload_pkt {ctx : TcpCtx} {sock : TcpSock} {hdrlen b : UInt32}
    (hhead : sock.txHead.toNat < sock.txLen.toNat)
    (hfit : sock.txPending.toNat + b.toNat ≤ sock.txLen.toNat)
    (hov : sock.txHead.toNat + sock.txLen.toNat < 4294967296) :
    (∀ i, i < b.toNat → (txCopyPayload ctx sock hdrlen b).pkt (hdrlen.toNat + i) =
      ringRead ctx.shm sock.txOff.toNat sock.txLen.toNat
        ((sock.txHead.toNat + sock.txPending.toNat) % sock.txLen.toNat) b.toNat i) ∧
    ∀ a, a < hdrlen.toNat → (txCopyPayload ctx sock hdrlen b).pkt a = ctx.pkt a := by
  obtain ⟨htail, hiff, hpart, hrest⟩ := ringIndex hhead hfit hov
  unfold txCopyPayload ringRead
  dsimp only
  by_cases h : wrapAdd sock.txHead sock.txPending sock.txLen + b ≤ sock.txLen
  · rw [if_pos h]
    dsimp only
    refine ⟨fun i hi => ?_, fun a ha => blit_out (Or.inl ha)⟩
    rw [if_pos (hiff.mp h), htail]
    exact blit_in hi
  · rw [if_neg h, hrest h, hpart, htail]
    dsimp only
    refine ⟨fun i hi => ?_, fun a ha => ?_⟩
    · rw [if_neg (fun hn => h (hiff.mpr hn))]
      generalize hk : sock.txLen.toNat -
        (sock.txHead.toNat + sock.txPending.toNat) % sock.txLen.toNat = k
      by_cases hik : i < k
      · rw [if_pos hik, blit_out (Or.inl (by omega))]
        exact blit_in hik
      · rw [if_neg hik, show hdrlen.toNat + i = hdrlen.toNat + k + (i - k) by omega]
        exact blit_in (by omega)
    · rw [blit_out (Or.inl (by omega))]
      exact blit_out (Or.inl ha)

/-- `tcp_recvfrom` hands out the bytes at the head, for lengths an `int`
can hold. -/
theorem libCopyOut_eq {sock : TcpSocketLib} (shm : Nat → UInt8) {n : UInt32}
    (hhead : sock.rxHead.toNat < sock.rxLen.toNat) (hfit : n.toNat ≤ sock.rxLen.toNat)
    (hov : sock.rxHead.toNat + sock.rxLen.toNat < 4294967296) (hint : n.toNat < 2147483648) :
    libCopyOut sock shm n =
      some ((List.range n.toNat).map
        (ringRead shm sock.rxBuf.toNat sock.rxLen.toNat sock.rxHead.toNat n.toNat)) := by
  have hneg : ¬ s32 n < 0 := by
    rw [s32_neg_iff]
    omega
  rw [← ringRead_words shm sock.rxBuf.toNat hhead hfit hov]
  unfold libCopyOut
  dsimp only
  rw [if_neg hneg]
  split <;> rfl

end Chamelio.Tcp
