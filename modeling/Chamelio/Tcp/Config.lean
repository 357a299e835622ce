import Chamelio.Lib.Cstdio
import Chamelio.Tcp.SlowCtx

/-!
# Options of the TCP slow path (`protos/tcp/config/tcp_config.c`)

Defaults and command line. A number is read by `strtoul` and has to be the
whole argument; `parse_u32` refuses zero, `parse_u32_zero` takes it. The two
options that may be zero are the rates where zero has a meaning or is the
default: `cc-const-rate` and `cc-dctcp-min`.

`CfgPositive` collects the fields that no accepted command line leaves at
zero.

Mirroring notes:
- The arguments are what `getopt_long` makes of `argv`: an option of the table
  with its argument, or `none` where it returns `'?'`.
- `cc-dctcp-weight` and `cc-dctcp-mimd` are read by `strtod` and scaled in
  `double`. What becomes of the text is a parameter: `scaled lo s` is
  `UINT_MAX * (d - lo)` for the number `d` of `s`, `none` where `s` is no number
  from `lo` to `lo + 1`.
- The messages for the terminal are left out.
-/

namespace Chamelio.Tcp

open Chamelio.Lib

/-- `enum cfg_params`. -/
inductive CfgParam
  | virt
  | rxbufSz
  | txbufSz
  | appqLen
  | bumpqLen
  | ctlqLen
  | tcpRttInit
  | cc
  | ccControlGranularity
  | ccControlInterval
  | ccRemitInts
  | ccDctcpWeight
  | ccDctcpInit
  | ccDctcpStep
  | ccDctcpMimd
  | ccDctcpMin
  | ccDctcpMinpkts
  | ccConstRate
  deriving DecidableEq

/-- `struct tcp_configuration`. -/
structure TcpConfiguration where
  virt : UInt32
  virtGre : UInt32
  rxbufSz : UInt32
  txbufSz : UInt32
  appqLen : UInt32
  bumpqLen : UInt32
  ctlqLen : UInt32
  ccRttInit : UInt32
  ccAlgorithm : CcAlgorithm
  ccControlGranularity : UInt32
  ccControlInterval : UInt32
  ccRemitInts : UInt32
  ccDctcpWeight : UInt32
  ccDctcpInit : UInt32
  ccDctcpStep : UInt32
  ccDctcpMimd : UInt32
  ccDctcpMin : UInt32
  ccDctcpMinpkts : UInt32
  ccConstRate : UInt32
  deriving DecidableEq

/-- `UINT_MAX`. -/
def uintMax : UInt32 := 0xffffffff

def configDefaults : TcpConfiguration :=
  { virt := 0
    virtGre := 0
    rxbufSz := 32768
    txbufSz := 32768
    appqLen := 128
    bumpqLen := 65536
    ctlqLen := 1024
    ccRttInit := 50
    ccAlgorithm := .constRate
    ccControlGranularity := 50
    ccControlInterval := 2
    ccRemitInts := 4
    ccDctcpWeight := uintMax / 16
    ccDctcpInit := 10000
    ccDctcpStep := 10000
    ccDctcpMimd := 0
    ccDctcpMin := 0
    ccDctcpMinpkts := 50
    ccConstRate := 0 }

/-- A whole argument that is a 32-bit number, and not zero unless `zeroOk`. -/
def parseUint (zeroOk : Bool) (s : Text) : Option UInt32 :=
  let r := strtoul s
  if r.range ∨ s = [] ∨ r.rest ≠ [] ∨ (zeroOk = false ∧ r.val = 0) ∨ r.val > uintMax.toNat then
    none
  else some (UInt32.ofNat r.val)

def parseU32 (s : Text) : Option UInt32 := parseUint false s

def parseU32Zero (s : Text) : Option UInt32 := parseUint true s

def parseCcAlgorithm (s : Text) : Option CcAlgorithm :=
  if s = "const-rate".toUTF8.data.toList then some .constRate
  else if s = "dctcp-rate".toUTF8.data.toList then some .dctcpRate
  else none

/-- One option of the loop of `tcp_config_parse`. -/
def configOption (scaled : Nat → Text → Option UInt32) (c : TcpConfiguration) (p : CfgParam)
    (optarg : Text) : Option TcpConfiguration :=
  match p with
  | .virt => some { c with virt := 1 }
  | .rxbufSz => (parseU32 optarg).map fun v => { c with rxbufSz := v }
  | .txbufSz => (parseU32 optarg).map fun v => { c with txbufSz := v }
  | .appqLen => (parseU32 optarg).map fun v => { c with appqLen := v }
  | .bumpqLen => (parseU32 optarg).map fun v => { c with bumpqLen := v }
  | .ctlqLen => (parseU32 optarg).map fun v => { c with ctlqLen := v }
  | .tcpRttInit => (parseU32 optarg).map fun v => { c with ccRttInit := v }
  | .cc => (parseCcAlgorithm optarg).map fun v => { c with ccAlgorithm := v }
  | .ccControlGranularity => (parseU32 optarg).map fun v => { c with ccControlGranularity := v }
  | .ccControlInterval => (parseU32 optarg).map fun v => { c with ccControlInterval := v }
  | .ccRemitInts => (parseU32 optarg).map fun v => { c with ccRemitInts := v }
  | .ccDctcpWeight => (scaled 0 optarg).map fun v => { c with ccDctcpWeight := v }
  | .ccDctcpInit => (parseU32 optarg).map fun v => { c with ccDctcpInit := v }
  | .ccDctcpStep => (parseU32 optarg).map fun v => { c with ccDctcpStep := v }
  | .ccDctcpMimd => (scaled 1 optarg).map fun v => { c with ccDctcpMimd := v }
  | .ccDctcpMin => (parseU32Zero optarg).map fun v => { c with ccDctcpMin := v }
  | .ccDctcpMinpkts => (parseU32 optarg).map fun v => { c with ccDctcpMinpkts := v }
  | .ccConstRate => (parseU32Zero optarg).map fun v => { c with ccConstRate := v }

def configLoop (scaled : Nat → Text → Option UInt32) :
    List (Option (CfgParam × Text)) → TcpConfiguration → Option TcpConfiguration
  | [], c => some c
  | none :: _, _ => none
  | some (p, optarg) :: args, c =>
    match configOption scaled c p optarg with
    | none => none
    | some c => configLoop scaled args c

def tcpConfigParse (scaled : Nat → Text → Option UInt32)
    (args : List (Option (CfgParam × Text))) : Option TcpConfiguration :=
  configLoop scaled args configDefaults

/-! ## What is never zero -/

/-- The fields only `parse_u32` writes, with a default that is not zero. -/
structure CfgPositive (c : TcpConfiguration) : Prop where
  rttInit : c.ccRttInit ≠ 0
  controlGranularity : c.ccControlGranularity ≠ 0
  controlInterval : c.ccControlInterval ≠ 0
  remitInts : c.ccRemitInts ≠ 0
  dctcpInit : c.ccDctcpInit ≠ 0
  dctcpStep : c.ccDctcpStep ≠ 0
  dctcpMinpkts : c.ccDctcpMinpkts ≠ 0

theorem configDefaults_positive : CfgPositive configDefaults := by
  constructor <;> simp [configDefaults]

theorem parseU32_ne_zero {s : Text} {v : UInt32} (h : parseU32 s = some v) : v ≠ 0 := by
  unfold parseU32 parseUint at h
  dsimp only at h
  split at h
  next => cases h
  next hok =>
    simp only [not_or, not_and, gt_iff_lt, Nat.not_lt] at hok
    obtain ⟨-, -, -, hzero, hmax⟩ := hok
    have hmax : (strtoul s).val ≤ 4294967295 := hmax
    have hv := Option.some.inj h
    intro hv0
    have hval : (UInt32.ofNat (strtoul s).val).toNat = 0 := by
      rw [hv, hv0]
      rfl
    rw [UInt32.toNat_ofNat_of_lt' (by
      show _ < 4294967296
      omega)] at hval
    exact hzero trivial hval

theorem configOption_positive {scaled : Nat → Text → Option UInt32} {c c' : TcpConfiguration}
    {p : CfgParam} {optarg : Text} (h : CfgPositive c)
    (hopt : configOption scaled c p optarg = some c') : CfgPositive c' := by
  unfold configOption at hopt
  cases p with
  | virt =>
    cases hopt
    exact ⟨h.1, h.2, h.3, h.4, h.5, h.6, h.7⟩
  | tcpRttInit =>
    obtain ⟨v, hv, rfl⟩ := Option.map_eq_some_iff.mp hopt
    exact { h with rttInit := parseU32_ne_zero hv }
  | ccControlGranularity =>
    obtain ⟨v, hv, rfl⟩ := Option.map_eq_some_iff.mp hopt
    exact { h with controlGranularity := parseU32_ne_zero hv }
  | ccControlInterval =>
    obtain ⟨v, hv, rfl⟩ := Option.map_eq_some_iff.mp hopt
    exact { h with controlInterval := parseU32_ne_zero hv }
  | ccRemitInts =>
    obtain ⟨v, hv, rfl⟩ := Option.map_eq_some_iff.mp hopt
    exact { h with remitInts := parseU32_ne_zero hv }
  | ccDctcpInit =>
    obtain ⟨v, hv, rfl⟩ := Option.map_eq_some_iff.mp hopt
    exact { h with dctcpInit := parseU32_ne_zero hv }
  | ccDctcpStep =>
    obtain ⟨v, hv, rfl⟩ := Option.map_eq_some_iff.mp hopt
    exact { h with dctcpStep := parseU32_ne_zero hv }
  | ccDctcpMinpkts =>
    obtain ⟨v, hv, rfl⟩ := Option.map_eq_some_iff.mp hopt
    exact { h with dctcpMinpkts := parseU32_ne_zero hv }
  | _ =>
    -- a field that is not in the list
    obtain ⟨v, -, rfl⟩ := Option.map_eq_some_iff.mp hopt
    exact ⟨h.1, h.2, h.3, h.4, h.5, h.6, h.7⟩

theorem configLoop_positive {scaled : Nat → Text → Option UInt32}
    {args : List (Option (CfgParam × Text))} {c c' : TcpConfiguration} (h : CfgPositive c)
    (hloop : configLoop scaled args c = some c') : CfgPositive c' := by
  induction args generalizing c with
  | nil =>
    cases hloop
    exact h
  | cons arg args ih =>
    cases arg with
    | none => cases hloop
    | some a =>
      obtain ⟨p, optarg⟩ := a
      rw [configLoop] at hloop
      cases hopt : configOption scaled c p optarg with
      | none =>
        rw [hopt] at hloop
        cases hloop
      | some c₁ =>
        rw [hopt] at hloop
        exact ih (configOption_positive h hopt) hloop

/-- **What an accepted command line leaves at zero** is none of these. -/
theorem tcpConfigParse_positive {scaled : Nat → Text → Option UInt32}
    {args : List (Option (CfgParam × Text))} {c : TcpConfiguration}
    (h : tcpConfigParse scaled args = some c) : CfgPositive c :=
  configLoop_positive configDefaults_positive h

end Chamelio.Tcp
