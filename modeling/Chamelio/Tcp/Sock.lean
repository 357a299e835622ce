import Chamelio.Lib.Word

/-!
# TCP sockets in shared memory (`protos/tcp/include/tcp.h`)

The socket entry the fast path, the slow path and the library share, the
recovery state machine on it, and the amount the scheduler may send.

Mirroring notes:
- `state` is an inductive type; `recovery_active`, an 8-bit 0/1, a `Bool`.
- The spin lock is left out: each handler runs as one step.
- The unused `tx_rexmit_*` are read by nothing modelled here.
-/

namespace Chamelio.Tcp

open Chamelio.Lib

/-- `enum tcp_sock_state`. -/
inductive SockState
  | closed
  | init
  | listen
  | synSent
  | synRecv
  | acceptPending
  | established
  | finWait1
  deriving DecidableEq, Repr

/-- `TCP_SOCK_FLAG_SEND_ECE`. -/
def sockFlagSendEce : UInt8 := 0x8
/-- `TCP_SOCK_FLAG_ECN`. -/
def sockFlagEcn : UInt8 := 0x10
/-- `TCP_MAX_RTT`. -/
def tcpMaxRtt : UInt32 := 100000
/-- `ID_INVALID`. -/
def idInvalid : UInt32 := 0xffffffff
/-- `TCP_FLOW_BUCKETS`. -/
def tcpFlowBuckets : UInt32 := 4096
/-- `TCP_FLOW_BUCKET_SLOTS`. -/
def tcpFlowBucketSlots : Nat := 4

/-- `struct tcp_sock`. -/
structure TcpSock where
  id : UInt32
  /-- Pointer to the socket in the application. -/
  opaquePtr : UInt64
  /-- Fast-path core the socket runs on. -/
  core : UInt16
  appBumpQid : UInt16
  localIp : UInt32
  remoteIp : UInt32
  localPort : UInt16
  remotePort : UInt16
  state : SockState
  reuport : Bool
  appId : UInt8
  ctxId : UInt8
  flags : UInt8
  rxLen : UInt32
  rxAvail : UInt32
  rxHead : UInt32
  rxOff : UInt64
  txLen : UInt32
  txAvail : UInt32
  txHead : UInt32
  txOff : UInt64
  txSeq : UInt32
  txPending : UInt32
  rxSeq : UInt32
  txRemoteAvail : UInt32
  rxDupackCnt : UInt8
  ccAcks : UInt32
  ccAckb : UInt32
  ccEcnb : UInt32
  ccDrops : UInt32
  ccRate : UInt32
  tsRecent : UInt32
  rttEst : UInt32
  txReadyTsc : UInt64
  recoveryActive : Bool
  recoveryEndSeq : UInt32
  deriving DecidableEq

/-- A zeroed entry of the socket map. -/
def TcpSock.zero : TcpSock :=
  { id := 0, opaquePtr := 0, core := 0, appBumpQid := 0, localIp := 0, remoteIp := 0,
    localPort := 0, remotePort := 0, state := .closed, reuport := false, appId := 0, ctxId := 0,
    flags := 0, rxLen := 0, rxAvail := 0, rxHead := 0,
    rxOff := 0, txLen := 0, txAvail := 0, txHead := 0, txOff := 0, txSeq := 0, txPending := 0,
    rxSeq := 0, txRemoteAvail := 0, rxDupackCnt := 0, ccAcks := 0, ccAckb := 0, ccEcnb := 0,
    ccDrops := 0, ccRate := 0, tsRecent := 0, rttEst := 0, txReadyTsc := 0,
    recoveryActive := false, recoveryEndSeq := 0 }

def tcpSockRecoveryReset (sock : TcpSock) : TcpSock :=
  { sock with recoveryActive := false, recoveryEndSeq := 0 }

def tcpSockRecoveryEnter (sock : TcpSock) : TcpSock :=
  if sock.recoveryActive then sock
  else { sock with recoveryActive := true, recoveryEndSeq := sock.txSeq + sock.txPending }

def tcpSockRecoveryAck (sock : TcpSock) : TcpSock :=
  if sock.recoveryActive && decide (s32 (sock.txSeq - sock.recoveryEndSeq) ≥ 0) then
    tcpSockRecoveryReset sock
  else sock

def tcpSockRecoveryAvail (sock : TcpSock) : UInt32 :=
  if !sock.recoveryActive then 0xffffffff
  else
    let seq := sock.txSeq + sock.txPending
    if s32 (sock.recoveryEndSeq - seq) ≤ 0 then 0
    else sock.recoveryEndSeq - seq

/-- Bytes the remote window and the recovery limit allow to be sent. -/
def sockSchedAvail (sock : TcpSock) : UInt32 :=
  if sock.txPending ≥ sock.txRemoteAvail then 0
  else
    let fcAvail := sock.txRemoteAvail - sock.txPending
    let avail := if sock.txAvail < fcAvail then sock.txAvail else fcAvail
    let recoveryAvail := tcpSockRecoveryAvail sock
    if avail > recoveryAvail then recoveryAvail else avail

/-- Only the fields that decide `sock_sched_avail`. -/
theorem sockSchedAvail_congr {s s' : TcpSock} (h₁ : s'.txPending = s.txPending)
    (h₂ : s'.txRemoteAvail = s.txRemoteAvail) (h₃ : s'.txAvail = s.txAvail)
    (h₄ : s'.txSeq = s.txSeq) (h₅ : s'.recoveryActive = s.recoveryActive)
    (h₆ : s'.recoveryEndSeq = s.recoveryEndSeq) :
    sockSchedAvail s' = sockSchedAvail s := by
  unfold sockSchedAvail tcpSockRecoveryAvail
  rw [h₁, h₂, h₃, h₄, h₅, h₆]

/-- `sock_sched_avail` is the least of what is buffered, what the remote
window leaves and what recovery allows. -/
theorem toNat_sockSchedAvail (s : TcpSock) :
    (sockSchedAvail s).toNat =
      min (min s.txAvail.toNat (s.txRemoteAvail.toNat - s.txPending.toNat))
        (tcpSockRecoveryAvail s).toNat := by
  unfold sockSchedAvail
  generalize tcpSockRecoveryAvail s = r
  by_cases hge : s.txPending ≥ s.txRemoteAvail
  · rw [if_pos hge]
    have := UInt32.le_iff_toNat_le.mp hge
    simp only [UInt32.toNat_zero]
    omega
  · rw [if_neg hge]
    have hlt := UInt32.lt_iff_toNat_lt.mp (UInt32.not_le.mp hge)
    have hfc := toNat_sub_of_le (Nat.le_of_lt hlt)
    dsimp only
    rw [toNat_clamp]
    have hmin : (if s.txAvail < s.txRemoteAvail - s.txPending then s.txAvail
        else s.txRemoteAvail - s.txPending).toNat =
        min s.txAvail.toNat (s.txRemoteAvail - s.txPending).toNat := by
      split
      · next h =>
        have := UInt32.lt_iff_toNat_lt.mp h
        omega
      · next h =>
        have := UInt32.le_iff_toNat_le.mp (UInt32.not_lt.mp h)
        omega
    rw [hmin, hfc]

end Chamelio.Tcp
