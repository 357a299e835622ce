import Chamelio.Lib.Buckets
import Chamelio.Tcp.SlowReqSpec

/-!
# The flow table

`tcp_flow.c` keeps the id of every connected socket in the bucket of its
4-tuple; the slow path and the fast path both find a connection there. The
4-tuple itself lives in the socket. `FlowBut ctx x` is the invariant: the
table is `Placed` for the 4-tuples as they are, its entries are open and
have distinct 4-tuples, and every socket of a connection, `x` apart, is in
it.

Three requests rewrite a 4-tuple without a look at the table: a bind, a
connect and a transmit bump with an address. `FlowOk` says of these that
they leave the 4-tuple of a socket in the table alone and do not connect to
a 4-tuple that is in it; everything else keeps the invariant whatever it is
asked.
-/

namespace Chamelio.Tcp

open Chamelio.Lib Chamelio.Util Chamelio.Pkt Chamelio.Fast

/-- The 4-tuple of a socket. -/
def SockKey.tuple (k : SockKey) : UInt32 × UInt16 × UInt32 × UInt16 :=
  (k.localIp, k.localPort, k.remoteIp, k.remotePort)

/-- The socket an id names. -/
def keyOf (ctx : TcpSlowCtx) (id : UInt32) : SockKey := (ctx.sock id.toNat).key

/-- The flow table holds the id. -/
def HasSlot (ctx : TcpSlowCtx) (id : UInt32) : Prop :=
  id ≠ idInvalid ∧ Stored ctx.maps.buckets tcpFlowBucketSlots id

theorem bucket_of_tuple {k k' : SockKey} (h : k.tuple = k'.tuple) : k.bucket = k'.bucket := by
  unfold SockKey.tuple at h
  injection h with h₁ h
  injection h with h₂ h
  injection h with h₃ h₄
  unfold SockKey.bucket
  rw [h₁, h₂, h₃, h₄]

/-- The invariant, with the socket `x` allowed to be missing. -/
structure FlowBut (ctx : TcpSlowCtx) (x : Option UInt32) : Prop where
  base : Base ctx
  placed : Placed ctx.maps.buckets tcpFlowBucketSlots idInvalid (fun id => (keyOf ctx id).bucket)
  live : ∀ id, HasSlot ctx id → (keyOf ctx id).state ≠ .closed
  apart : ∀ id id', HasSlot ctx id → HasSlot ctx id' → (keyOf ctx id).tuple = (keyOf ctx id').tuple →
    id = id'
  here : ∀ i, i < ctx.nSocks → (ctx.sock i).state.connected = true → some (UInt32.ofNat i) ≠ x →
    HasSlot ctx (UInt32.ofNat i)
  sockNelems : ctx.maps.sockNelems = maxSockets
  buckNelems : ctx.maps.buckNelems = tcpFlowBuckets.toNat

theorem SlowInit.flow {ctx : TcpSlowCtx} (h : SlowInit ctx) : FlowBut ctx none := by
  have hno : ∀ id, ¬HasSlot ctx id := by
    rintro id ⟨hne, k, s, -, he⟩
    rw [h.buckets] at he
    exact hne he.symm
  refine ⟨h.base, ⟨?_, ?_⟩, ?_, ?_, ?_, h.sockNelems, h.buckNelems⟩
  · intro k s _ hne
    exact absurd (h.buckets k s) hne
  · intro k s _ _ _ _ hne
    exact absurd (h.buckets k s) hne
  · intro id hid
    exact absurd hid (hno id)
  · intro id _ hid
    exact absurd hid (hno id)
  · intro i hi
    rw [h.nSocks] at hi
    exact absurd hi (Nat.not_lt_zero i)

/-! ## Lookups -/

section lookups

variable {ctx : TcpSlowCtx} {x : Option UInt32}

theorem Base.slot_lt (h : Base ctx) {id : UInt32} (hs : HasSlot ctx id) :
    id.toNat < ctx.nSocks := by
  obtain ⟨hne, k, s, -, he⟩ := hs
  rcases h.slot k s with hi | hi
  · exact absurd (he.symm.trans hi) hne
  · rw [he] at hi
    exact hi

/-- The test `tcp_flow_lookup` makes on one slot. -/
def flowTest (ctx : TcpSlowCtx) (localIp : UInt32) (localPort : UInt16) (remoteIp : UInt32)
    (remotePort : UInt16) (sid : UInt32) : Option Nat :=
  if sid = idInvalid then none
  else if (ctx.sock sid.toNat).state = .closed then none
  else if (ctx.sock sid.toNat).localIp = localIp ∧ (ctx.sock sid.toNat).localPort = localPort ∧
      (ctx.sock sid.toNat).remoteIp = remoteIp ∧ (ctx.sock sid.toNat).remotePort = remotePort then
    some sid.toNat
  else none

theorem tcpFlowLookup_eq (localIp : UInt32) (localPort : UInt16) (remoteIp : UInt32)
    (remotePort : UInt16) :
    tcpFlowLookup ctx localIp localPort remoteIp remotePort =
      (List.range tcpFlowBucketSlots).findSome? (fun i =>
        flowTest ctx localIp localPort remoteIp remotePort
          (ctx.maps.buckets (flowBucket localIp localPort remoteIp remotePort) i)) := rfl

/-- The test passes on an open socket with the 4-tuple, and on no other. -/
theorem flowTest_eq_some {k : SockKey} {id : UInt32} {j : Nat} :
    flowTest ctx k.localIp k.localPort k.remoteIp k.remotePort id = some j ↔
      id ≠ idInvalid ∧ (keyOf ctx id).state ≠ .closed ∧ (keyOf ctx id).tuple = k.tuple ∧
        j = id.toNat := by
  unfold flowTest keyOf SockKey.tuple
  constructor
  · intro h
    split at h
    · cases h
    · next hne =>
      split at h
      · cases h
      · next hopen =>
        split at h
        · next heq =>
          cases h
          refine ⟨hne, hopen, ?_, rfl⟩
          show ((ctx.sock id.toNat).localIp, (ctx.sock id.toNat).localPort,
            (ctx.sock id.toNat).remoteIp, (ctx.sock id.toNat).remotePort) = _
          rw [heq.1, heq.2.1, heq.2.2.1, heq.2.2.2]
        · cases h
  · rintro ⟨hne, hopen, heq, rfl⟩
    injection heq with h₁ heq
    injection heq with h₂ heq
    injection heq with h₃ h₄
    rw [if_neg hne]
    exact (if_neg hopen).trans (if_pos ⟨h₁, h₂, h₃, h₄⟩)

/-- **A socket in the table is found by its 4-tuple.** -/
theorem FlowBut.lookup (h : FlowBut ctx x) {id : UInt32} (hs : HasSlot ctx id) :
    tcpFlowLookup ctx (keyOf ctx id).localIp (keyOf ctx id).localPort (keyOf ctx id).remoteIp
      (keyOf ctx id).remotePort = some id.toNat := by
  rw [tcpFlowLookup_eq]
  refine h.placed.lookup hs.1 hs.2 ?_ ?_ ?_
  · exact flowTest_eq_some.mpr ⟨hs.1, h.live id hs, rfl, rfl⟩
  · unfold flowTest
    rw [if_pos rfl]
  · intro id' c hne hin hc
    obtain ⟨-, -, htuple, rfl⟩ := flowTest_eq_some.mp hc
    rw [h.apart id' id ⟨hne, hin⟩ hs htuple]

/-- No entry has a 4-tuple that is not found. -/
theorem FlowBut.lookup_none (h : FlowBut ctx x) {k : SockKey}
    (hnone : tcpFlowLookup ctx k.localIp k.localPort k.remoteIp k.remotePort = none)
    {id : UInt32} (hs : HasSlot ctx id) : (keyOf ctx id).tuple ≠ k.tuple := by
  intro he
  have hf := h.lookup hs
  have he' := he
  unfold SockKey.tuple at he'
  injection he' with h₁ he'
  injection he' with h₂ he'
  injection he' with h₃ h₄
  rw [h₁, h₂, h₃, h₄, hnone] at hf
  cases hf

/-- The fast path makes the same test, since every id in the table is one of
its socket map. -/
theorem sockFindSlot_eq (h : Base ctx) (hn : ctx.maps.sockNelems = maxSockets) (env : TcpCtx)
    (lip : UInt32) (lport : UInt16) (rip : UInt32) (rport : UInt16) {id : UInt32}
    (hid : id = idInvalid ∨ id.toNat < ctx.nSocks) :
    sockFindSlot (fastWith env ctx) lip lport rip rport id =
      flowTest ctx lip lport rip rport id := by
  unfold sockFindSlot flowTest
  split
  · rfl
  · next hne =>
    have hlt : id.toNat < maxSockets := by
      rcases hid with hi | hi
      · exact absurd hi hne
      · exact h.lt hi
    unfold sockMapLookup
    rw [if_neg (by rw [show (fastWith env ctx).maps.sockNelems = maxSockets from hn]; omega)]
    rfl

theorem flowBucket_lt (localIp : UInt32) (localPort : UInt16) (remoteIp : UInt32)
    (remotePort : UInt16) :
    flowBucket localIp localPort remoteIp remotePort < tcpFlowBuckets.toNat := by
  unfold flowBucket
  rw [UInt32.toNat_mod]
  exact Nat.mod_lt _ (by decide)

/-- **Both paths agree on every 4-tuple.** -/
theorem FlowBut.sockFind_eq (h : FlowBut ctx x) (env : TcpCtx) :
    sockFind (fastWith env ctx) =
      tcpFlowLookup ctx (ipDst env.pkt) (tcpDest env.pkt) (ipSrc env.pkt) (tcpSrc env.pkt) := by
  have hlt := flowBucket_lt (ipDst env.pkt) (tcpDest env.pkt) (ipSrc env.pkt) (tcpSrc env.pkt)
  rw [tcpFlowLookup_eq]
  unfold sockFind
  dsimp only
  rw [if_neg]
  · show (List.range tcpFlowBucketSlots).findSome? (fun i =>
      sockFindSlot (fastWith env ctx) (ipDst env.pkt) (tcpDest env.pkt) (ipSrc env.pkt)
        (tcpSrc env.pkt) (ctx.maps.buckets (flowBucket (ipDst env.pkt) (tcpDest env.pkt)
          (ipSrc env.pkt) (tcpSrc env.pkt)) i)) = _
    congr 1
    funext i
    exact sockFindSlot_eq h.base h.sockNelems env _ _ _ _ (h.base.slot _ i)
  · rw [show (fastWith env ctx).maps.buckNelems = tcpFlowBuckets.toNat from h.buckNelems]
    unfold flowBucket at hlt
    exact Nat.not_le_of_lt hlt

end lookups

/-! ## What keeps the table -/

section keeping

variable {a b : TcpSlowCtx} {x y : Option UInt32}

/-- The table is as it was, and so are the 4-tuples of the sockets in it. -/
theorem FlowBut.keep (h : FlowBut a x) (hbase : Base b)
    (hbuck : b.maps.buckets = a.maps.buckets)
    (hkey : ∀ id, HasSlot a id → (keyOf b id).tuple = (keyOf a id).tuple ∧
      (keyOf b id).state ≠ .closed)
    (hconn : ∀ i, i < b.nSocks → (b.sock i).state.connected = true → some (UInt32.ofNat i) ≠ y →
      HasSlot a (UInt32.ofNat i))
    (hsn : b.maps.sockNelems = a.maps.sockNelems)
    (hbn : b.maps.buckNelems = a.maps.buckNelems) : FlowBut b y := by
  have hslot : ∀ id, HasSlot b id ↔ HasSlot a id := by
    intro id
    unfold HasSlot
    rw [hbuck]
  refine ⟨hbase, ?_, ?_, ?_, ?_, hsn.trans h.sockNelems, hbn.trans h.buckNelems⟩
  · rw [hbuck]
    apply h.placed.congr
    intro id hne hin
    exact bucket_of_tuple (hkey id ⟨hne, hin⟩).1
  · intro id hid
    exact (hkey id ((hslot id).mp hid)).2
  · intro id id' hid hid' he
    rw [hslot] at hid hid'
    rw [(hkey id hid).1, (hkey id' hid').1] at he
    exact h.apart id id' hid hid' he
  · intro i hi hc hx
    rw [hslot]
    exact hconn i hi hc hx

theorem FlowBut.same (h : FlowBut a x) (hs : SameCore a b) : FlowBut b x := by
  refine h.keep (h.base.same hs) hs.buckets ?_ ?_ hs.sockNelems hs.buckNelems
  · intro id hid
    unfold keyOf
    rw [hs.key]
    exact ⟨rfl, h.live id hid⟩
  · intro i hi hc hx
    rw [hs.nSocks] at hi
    rw [key_state (hs.key i)] at hc
    exact h.here i hi hc hx

theorem eq_ofNat_of_toNat {id : UInt32} {sid : Nat} (he : id.toNat = sid) :
    id = UInt32.ofNat sid := by
  rw [← he, UInt32.ofNat_toNat]

/-- A socket that keeps its 4-tuple, or is not in the table; as part of a
connection it has to be. -/
theorem FlowBut.rekeyed {sid : Nat} {k : SockKey} (h : FlowBut a none) (hbase : Base b)
    (hr : Rekeyed a b sid k)
    (hk : HasSlot a (UInt32.ofNat sid) → k.tuple = (a.sock sid).key.tuple ∧ k.state ≠ .closed)
    (hconn : k.state.connected = true → some (UInt32.ofNat sid) ≠ y →
      HasSlot a (UInt32.ofNat sid)) : FlowBut b y := by
  refine h.keep hbase hr.buckets ?_ ?_ hr.sockNelems hr.buckNelems
  · intro id hid
    unfold keyOf
    rw [hr.key]
    split
    · next he =>
      rw [eq_ofNat_of_toNat he] at hid
      rw [he]
      exact hk hid
    · exact ⟨rfl, h.live id hid⟩
  · intro i hi hc hy
    rw [hr.nSocks] at hi
    by_cases hs : i = sid
    · rw [hs] at hc hy ⊢
      refine hconn ?_ hy
      rw [← hr.at]
      exact hc
    · rw [key_state ((hr.key i).trans (if_neg hs))] at hc
      exact h.here i hi hc nofun

theorem tcpFlowRemove_eq_dropSlot (ctx : TcpSlowCtx) (sid : Nat) :
    (tcpFlowRemove ctx sid).maps.buckets =
      dropSlot ctx.maps.buckets tcpFlowBucketSlots idInvalid (ctx.sock sid).key.bucket
        (ctx.sock sid).id := by
  unfold tcpFlowRemove dropSlot
  dsimp only
  have hkey : (ctx.sock sid).key.bucket = flowBucket (ctx.sock sid).localIp
      (ctx.sock sid).localPort (ctx.sock sid).remoteIp (ctx.sock sid).remotePort := rfl
  rw [hkey]
  generalize flowBucket _ _ _ _ = b
  rw [show slotOf ctx.maps.buckets tcpFlowBucketSlots b (ctx.sock sid).id =
    bucketSlot ctx b (ctx.sock sid).id from rfl]
  cases bucketSlot ctx b (ctx.sock sid).id with
  | none => rfl
  | some i => rfl

theorem Base.keyOf_ofNat (h : Base a) {sid : Nat} (hlt : sid < a.nSocks) (ctx : TcpSlowCtx) :
    keyOf ctx (UInt32.ofNat sid) = (ctx.sock sid).key := by
  unfold keyOf
  rw [toNat_ofNat_sock (h.lt hlt)]

/-- **A flow is removed** and its socket leaves the connection. -/
theorem FlowBut.removed {sid : Nat} (h : FlowBut a x) (hlt : sid < a.nSocks)
    (hx : x = none ∨ x = some (UInt32.ofNat sid)) (hbase : Base b)
    (hbuck : b.maps.buckets = (tcpFlowRemove a sid).maps.buckets)
    (hkey : ∀ i, i ≠ sid → (b.sock i).key = (a.sock i).key)
    (hst : (b.sock sid).state.connected = false) (hn : b.nSocks = a.nSocks)
    (hsn : b.maps.sockNelems = a.maps.sockNelems)
    (hbn : b.maps.buckNelems = a.maps.buckNelems) : FlowBut b none := by
  have hid := h.base.id sid hlt
  have hne := ofNat_ne_idInvalid (h.base.lt hlt)
  have hkid := h.base.keyOf_ofNat hlt a
  rw [tcpFlowRemove_eq_dropSlot, hid] at hbuck
  have hslot : ∀ id, HasSlot b id ↔ HasSlot a id ∧ id ≠ UInt32.ofNat sid := by
    intro id
    unfold HasSlot
    by_cases hi : id = idInvalid
    · exact ⟨fun hc => absurd hi hc.1, fun hc => absurd hi hc.1.1⟩
    · have := stored_dropSlot h.placed hne hi
      rw [hkid] at this
      rw [hbuck, this]
      exact ⟨fun hc => ⟨⟨hi, hc.2.1⟩, hc.2.2⟩, fun hc => ⟨hi, hc.1.2, hc.2⟩⟩
  have hkeyOf : ∀ id, HasSlot b id → keyOf b id = keyOf a id := by
    intro id hb
    obtain ⟨ha, hns⟩ := (hslot id).mp hb
    apply hkey
    intro he
    exact hns (eq_ofNat_of_toNat he)
  refine ⟨hbase, ?_, ?_, ?_, ?_, hsn.trans h.sockNelems, hbn.trans h.buckNelems⟩
  · rw [hbuck]
    apply (h.placed.drop _ _).congr
    intro id hne' hin
    rw [← hbuck] at hin
    rw [hkeyOf id ⟨hne', hin⟩]
  · intro id hb
    rw [hkeyOf id hb]
    exact h.live id ((hslot id).mp hb).1
  · intro id id' hb hb' he
    rw [hkeyOf id hb, hkeyOf id' hb'] at he
    exact h.apart id id' ((hslot id).mp hb).1 ((hslot id').mp hb').1 he
  · intro i hi hc _
    rw [hn] at hi
    have hs : i ≠ sid := by
      rintro rfl
      rw [hst] at hc
      cases hc
    have hns : UInt32.ofNat i ≠ UInt32.ofNat sid :=
      fun he => hs (ofNat_sock_inj (h.base.lt hi) (h.base.lt hlt) he)
    rw [key_state (hkey i hs)] at hc
    refine (hslot _).mpr ⟨h.here i hi hc ?_, hns⟩
    rcases hx with rfl | rfl
    · exact nofun
    · exact fun he => hns (Option.some.inj he)

/-- **A flow is inserted** for a socket that had none and whose 4-tuple is
nobody's. -/
theorem FlowBut.inserted {id : UInt32} (h : FlowBut a (some id)) (hbase : Base b)
    (hn : b.nSocks = a.nSocks) (hkey : ∀ i, (b.sock i).key = (a.sock i).key)
    (hidv : id ≠ idInvalid) (hno : ¬HasSlot a id) (hlive : (keyOf a id).state ≠ .closed)
    (hfresh : ∀ id', HasSlot a id' → (keyOf a id').tuple ≠ (keyOf a id).tuple) {s : Nat}
    (hs : s < tcpFlowBucketSlots) (hfree : a.maps.buckets (keyOf a id).bucket s = idInvalid)
    (hbuck : b.maps.buckets = putSlot a.maps.buckets (keyOf a id).bucket s id)
    (hsn : b.maps.sockNelems = a.maps.sockNelems)
    (hbn : b.maps.buckNelems = a.maps.buckNelems) : FlowBut b none := by
  have hkeyOf : ∀ id', keyOf b id' = keyOf a id' := fun id' => hkey id'.toNat
  have hslot : ∀ id', HasSlot b id' ↔ id' = id ∨ HasSlot a id' := by
    intro id'
    unfold HasSlot
    by_cases hi : id' = idInvalid
    · constructor
      · exact fun hc => absurd hi hc.1
      · rintro (rfl | hc)
        · exact absurd hi hidv
        · exact absurd hi hc.1
    · rw [hbuck, stored_putSlot hs hfree hi]
      constructor
      · rintro ⟨-, rfl | hin⟩
        · exact .inl rfl
        · exact .inr ⟨hi, hin⟩
      · rintro (rfl | hin)
        · exact ⟨hi, .inl rfl⟩
        · exact ⟨hi, .inr hin.2⟩
  refine ⟨hbase, ?_, ?_, ?_, ?_, hsn.trans h.sockNelems, hbn.trans h.buckNelems⟩
  · rw [hbuck]
    refine Placed.congr (Placed.put h.placed rfl (fun hin => hno ⟨hidv, hin⟩)) ?_
    intro id' _ _
    rw [hkeyOf]
  · intro id' hb
    rw [hkeyOf]
    rcases (hslot id').mp hb with rfl | ha
    · exact hlive
    · exact h.live id' ha
  · intro id₁ id₂ hb₁ hb₂ he
    rw [hkeyOf, hkeyOf] at he
    rcases (hslot id₁).mp hb₁ with rfl | ha₁
    · rcases (hslot id₂).mp hb₂ with rfl | ha₂
      · rfl
      · exact absurd he.symm (hfresh id₂ ha₂)
    · rcases (hslot id₂).mp hb₂ with rfl | ha₂
      · exact absurd he (hfresh id₁ ha₁)
      · exact h.apart id₁ id₂ ha₁ ha₂ he
  · intro i hi hc _
    rw [hn] at hi
    rw [key_state (hkey i)] at hc
    by_cases he : UInt32.ofNat i = id
    · exact (hslot _).mpr (.inl he)
    · exact (hslot _).mpr (.inr (h.here i hi hc (fun hx => he (Option.some.inj hx))))

end keeping

/-! ## The transitions keep it -/

section transitions

variable {a b : TcpSlowCtx}

/-- Only the entry behind the last socket is new. -/
theorem FlowBut.grown {y : Option UInt32} (h : FlowBut a none) (hbase : Base b)
    (hbuck : b.maps.buckets = a.maps.buckets)
    (hkey : ∀ i, i ≠ a.nSocks → (b.sock i).key = (a.sock i).key)
    (hn : b.nSocks ≤ a.nSocks + 1)
    (hnew : a.nSocks < b.nSocks → (b.sock a.nSocks).state.connected = true →
      some (UInt32.ofNat a.nSocks) = y)
    (hsn : b.maps.sockNelems = a.maps.sockNelems)
    (hbn : b.maps.buckNelems = a.maps.buckNelems) : FlowBut b y := by
  refine h.keep hbase hbuck ?_ ?_ hsn hbn
  · intro id hid
    have hlt := h.base.slot_lt hid
    unfold keyOf
    rw [hkey _ (by omega)]
    exact ⟨rfl, h.live id hid⟩
  · intro i hi hc hy
    by_cases he : i = a.nSocks
    · rw [he] at hi hc hy
      exact absurd (hnew hi hc) hy
    · rw [key_state (hkey i he)] at hc
      exact h.here i (by omega) hc nofun

theorem FlowBut.spawn {k : SockKey} (h : FlowBut a none) (hs : Spawned a b k) :
    FlowBut b none := by
  have hb := h.base.spawn hs
  have hkey : ∀ i, i ≠ a.nSocks → (b.sock i).key = (a.sock i).key :=
    fun i hi => (hs.key i).trans (if_neg hi)
  have hk : (b.sock a.nSocks).key = k := (hs.key _).trans (if_pos rfl)
  rcases hs.flow with ⟨hst, hbuck⟩ | ⟨hst, hnone, s, hlt, hfree, hbuck⟩
  · refine h.grown hb hbuck hkey (Nat.le_of_eq hs.nSocks) ?_ hs.sockNelems hs.buckNelems
    intro _ hc
    rw [show (b.sock a.nSocks).state = .closed from (congrArg SockKey.state hk).trans hst] at hc
    cases hc
  · -- the child first, its slot second
    let c : TcpSlowCtx := { b with maps := { b.maps with buckets := a.maps.buckets } }
    have hc : Base c := by
      refine hb.keep rfl (fun _ _ => rfl) (fun _ _ => rfl)
        (fun _ => .inr (.inl ⟨rfl, fun hcl => hcl⟩)) ?_
      intro j i
      rw [hs.nSocks]
      rcases h.base.slot j i with hi | hi
      · exact .inl hi
      · exact .inr (.inr (Nat.lt_succ_of_lt hi))
    have hfc : FlowBut c (some k.id) := by
      refine h.grown hc rfl hkey (Nat.le_of_eq hs.nSocks) ?_ hs.sockNelems hs.buckNelems
      intro _ _
      rw [hs.kid]
    have hkid : keyOf c k.id = k := by
      unfold keyOf
      rw [hs.kid, toNat_ofNat_sock hs.room]
      exact hk
    have hslot : ∀ id, HasSlot c id → HasSlot a id := fun _ hid => hid
    refine hfc.inserted hb rfl (fun _ => rfl) ?_ ?_ ?_ ?_ hlt (by rw [hkid]; exact hfree) ?_ rfl rfl
    · rw [hs.kid]
      exact ofNat_ne_idInvalid hs.room
    · intro hid
      have := h.base.slot_lt (hslot _ hid)
      rw [hs.kid, toNat_ofNat_sock hs.room] at this
      exact Nat.lt_irrefl _ this
    · rw [hkid, hst]
      exact SockState.noConfusion
    · intro id hid
      rw [hkid, show keyOf c id = keyOf a id from
        hkey _ (Nat.ne_of_lt (h.base.slot_lt (hslot id hid)))]
      exact h.lookup_none hnone (hslot id hid)
    · rw [hkid, hbuck]
      rfl

theorem FlowBut.fail {sid : Nat} {x : Option UInt32} (h : FlowBut a x) (hlt : sid < a.nSocks)
    (hx : x = none ∨ x = some (UInt32.ofNat sid)) (hf : Failed a b sid) : FlowBut b none := by
  refine h.removed hlt hx (h.base.fail hlt hf) hf.buckets
    (fun i hi => (hf.sock i).trans (if_neg hi)) ?_ hf.nSocks hf.sockNelems hf.buckNelems
  have hk := (hf.sock sid).trans (if_pos rfl)
  rw [show (b.sock sid).state = .init from congrArg SockKey.state hk]
  rfl

theorem FlowBut.close {sid : Nat} (h : FlowBut a none) (hlt : sid < a.nSocks) :
    FlowBut (tcpSockCloseFinal a sid) none := by
  obtain ⟨hsn, hbn, -⟩ := tcpSockCloseFinal_sockNelems a sid
  refine h.removed hlt (.inl rfl) (h.base.close hlt) (tcpSockCloseFinal_buckets a sid) ?_ ?_
    (tcpSockCloseFinal_nSocks a sid) hsn hbn
  · intro i hi
    rw [tcpSockCloseFinal_sock, if_neg hi]
  · rw [tcpSockCloseFinal_sock, if_pos rfl]
    rfl

theorem FlowBut.prim (h : FlowBut a none) (hp : Prim a b) : FlowBut b none := by
  have hb := h.base.prim hp
  cases hp with
  | same hs => exact h.same hs
  | move hlt hfrom hto hr =>
    refine h.rekeyed hb hr (fun _ => ⟨rfl, SockState.connected_live hto⟩) ?_
    intro _ _
    exact h.here _ hlt hfrom nofun
  | close hlt => exact h.close hlt
  | fail hlt _ hf => exact h.fail hlt (.inl rfl) hf
  | unalloc hu =>
    refine h.grown hb hu.buckets (fun i hi => by rw [hu.sock i hi]) (by rw [hu.nSocks]; omega) ?_
      hu.sockNelems hu.buckNelems
    intro hlt
    rw [hu.nSocks] at hlt
    exact absurd hlt (Nat.lt_irrefl _)
  | spawn hs => exact h.spawn hs

theorem FlowBut.steps (h : FlowBut a none) (hs : Steps a b) : FlowBut b none :=
  Steps.inv (I := fun c => FlowBut c none) (fun _ _ ha hp => ha.prim hp) hs h

theorem FlowBut.alloc (h : FlowBut a none) (ha : Allocated a b) : FlowBut b none := by
  refine h.grown (h.base.alloc ha) ha.buckets (fun i hi => by rw [ha.sock i hi])
    (Nat.le_of_eq ha.nSocks) ?_ ha.sockNelems ha.buckNelems
  intro _ hc
  rw [show (b.sock a.nSocks).state = .init from congrArg SockKey.state ha.key] at hc
  cases hc

end transitions

/-! ## Requests that rewrite a 4-tuple -/

/-- The condition on the requests that write a local or a remote address. A
socket in the table keeps its 4-tuple; a socket that connects is not in the
table, and nobody in it has the 4-tuple it is about to get. -/
def FlowOk (ctx : TcpSlowCtx) : SlowAct → Prop
  | .bind appId ctxId sockId localIp localPort _ =>
    BindTaken ctx appId ctxId sockId.toNat localPort → HasSlot ctx sockId →
      localPort ≠ 0 ∧ localIp = (ctx.sock sockId.toNat).localIp ∧
        localPort = (ctx.sock sockId.toNat).localPort
  | .connect _ _ sockId remoteIp remotePort _ =>
    ConnectTaken ctx sockId.toNat remotePort → ¬HasSlot ctx sockId ∧
      ∀ id, HasSlot ctx id →
        (keyOf ctx id).tuple ≠ (connectKey ctx sockId.toNat remoteIp remotePort).tuple
  | .fastDeq env =>
    ∀ sockId txPort txIp txAvail, env.qe = .bumpChamTx sockId txPort txIp txAvail →
      HasSlot ctx sockId →
        (txIp = 0 ∨ txIp = (ctx.sock sockId.toNat).remoteIp) ∧
          (txPort = 0 ∨ txPort = (ctx.sock sockId.toNat).remotePort)
  | _ => True

section requests

variable {ctx : TcpSlowCtx}

/-- A reservation is no business of the table, as long as the socket is not
in it. -/
theorem FlowBut.kept {c : TcpSlowCtx} {sid : Nat} (h : FlowBut ctx none)
    (hk : PortKept ctx c sid)
    (hport : HasSlot ctx (UInt32.ofNat sid) → (ctx.sock sid).localPort ≠ 0) :
    FlowBut c none := by
  rcases hk with ⟨-, rfl⟩ | ⟨hz, ha⟩
  · exact h
  · have hkey : ∀ i, (c.sock i).state = (ctx.sock i).state := by
      intro i
      by_cases hi : i = sid
      · rw [hi]
        exact congrArg SockKey.state ha.at
      · exact key_state ((ha.key i).trans (if_neg hi))
    refine h.keep (ha.base h.base) ha.buckets ?_ ?_ ha.sockNelems ha.buckNelems
    · intro id hid
      refine ⟨?_, ?_⟩
      · unfold keyOf
        rw [ha.key, if_neg]
        intro he
        rw [eq_ofNat_of_toNat he] at hid
        exact hport hid hz
      · show (c.sock id.toNat).state ≠ .closed
        rw [hkey]
        exact h.live id hid
    · intro i hi hc _
      rw [ha.nSocks] at hi
      rw [hkey] at hc
      exact h.here i hi hc nofun

theorem FlowBut.bind {sockId : UInt32} {appId ctxId : UInt8} {localIp : UInt32}
    {localPort : UInt16} {opaquePtr : UInt64} (h : FlowBut ctx none)
    (hok : FlowOk ctx (.bind appId ctxId sockId localIp localPort opaquePtr)) :
    FlowBut (appBind ctx appId ctxId sockId.toNat localIp localPort opaquePtr) none := by
  have hsid : UInt32.ofNat sockId.toNat = sockId := UInt32.ofNat_toNat
  rcases appBind_cases ctx appId ctxId sockId.toNat localIp localPort opaquePtr with
    hs | ⟨ht, hz, hs⟩ | ⟨ht, c, c', hk, hr, hs⟩
  · exact h.same hs.toSameCore
  · -- no port was left, so the socket has none and is not in the table
    have hno : ¬HasSlot ctx (UInt32.ofNat sockId.toNat) := by
      intro hid
      rw [hsid] at hid
      obtain ⟨hp, -, he⟩ := hok ht hid
      unfold reservedPort at hz
      rw [if_neg (by rw [← he]; exact hp)] at hz
      exact hp (he.trans hz)
    refine FlowBut.same ?_ hs.toSameCore
    refine h.rekeyed ?_ (rekeyed_bindIp ctx _) (fun hid => absurd hid hno) ?_
    · exact h.base.rekeyed (rekeyed_bindIp ctx _) rfl (fun hc => hc) (fun _ => rfl)
    · intro hc _
      exact h.here _ ht.2.1 hc nofun
  · have hport : HasSlot ctx (UInt32.ofNat sockId.toNat) →
        (ctx.sock sockId.toNat).localPort ≠ 0 := by
      intro hid
      rw [hsid] at hid
      obtain ⟨hp, -, he⟩ := hok ht hid
      rw [← he]
      exact hp
    have hc := h.kept hk hport
    have hslot : ∀ id, HasSlot c id ↔ HasSlot ctx id := by
      intro id
      rcases hk with ⟨-, rfl⟩ | ⟨-, ha⟩
      · exact Iff.rfl
      · unfold HasSlot
        rw [ha.buckets]
    refine FlowBut.same ?_ hs.toSameCore
    refine hc.rekeyed (h.base.bound hk hr ht.2.1 rfl (fun hc => hc)) hr ?_ ?_
    · intro hid
      rw [hslot] at hid
      have hlive := h.live _ hid
      rw [hsid] at hid hlive
      obtain ⟨hp, hip, he⟩ := hok ht hid
      refine ⟨?_, hlive⟩
      have hres : reservedPort ctx sockId.toNat = (ctx.sock sockId.toNat).localPort := by
        unfold reservedPort
        rw [if_neg (by rw [← he]; exact hp)]
      rw [hk.at, hres, hip, he]
      rfl
    · intro hcon _
      rw [hslot]
      exact h.here _ ht.2.1 hcon nofun

theorem FlowBut.connect {sockId : UInt32} {appId ctxId : UInt8} {remoteIp : UInt32}
    {remotePort : UInt16} {opaquePtr : UInt64} (h : FlowBut ctx none)
    (hok : FlowOk ctx (.connect appId ctxId sockId remoteIp remotePort opaquePtr)) :
    FlowBut (appConnect ctx appId ctxId sockId.toNat remoteIp remotePort opaquePtr) none := by
  have hsid : UInt32.ofNat sockId.toNat = sockId := UInt32.ofNat_toNat
  rcases appConnect_cases h.base appId ctxId sockId.toNat remoteIp remotePort opaquePtr with
    hs | ⟨ht, c, c', hk, hr, hf⟩
  · exact h.same hs.toSameCore
  · obtain ⟨hno, hfresh⟩ := hok ht
    have hc := h.kept hk (fun hid => absurd (hsid ▸ hid) hno)
    have hb' := h.base.bound hk hr ht.1 rfl nofun
    have hlt' : sockId.toNat < c'.nSocks := by
      rw [hr.nSocks, hk.nSocks]
      exact ht.1
    have hslot : ∀ id, HasSlot c' id ↔ HasSlot ctx id := by
      intro id
      unfold HasSlot
      rw [hr.buckets]
      rcases hk with ⟨-, rfl⟩ | ⟨-, ha⟩
      · exact Iff.rfl
      · rw [ha.buckets]
    have hslotc : ∀ id, HasSlot c id → HasSlot ctx id := by
      intro id hid
      refine (hslot id).mp ?_
      unfold HasSlot
      rw [hr.buckets]
      exact hid
    -- the socket has its new 4-tuple and is not in the table yet
    have hbut : FlowBut c' (some sockId) := by
      refine hc.rekeyed hb' hr (fun hid => absurd (hslotc _ hid) (by rw [hsid]; exact hno)) ?_
      intro _ hne
      rw [hsid] at hne
      exact absurd rfl hne
    rcases hf with hf | ⟨d, hd, hsteps⟩
    · exact hbut.fail hlt' (.inr (by rw [hsid])) hf
    · obtain ⟨s, hs, hfree, hde⟩ := tcpFlowInsert_eq_some hd
      refine FlowBut.steps ?_ hsteps
      have hkid : keyOf c' sockId = connectKey ctx sockId.toNat remoteIp remotePort := hr.at
      have hid : (c'.sock sockId.toNat).id = sockId := by
        rw [hb'.id _ hlt', hsid]
      refine hbut.inserted (hb'.inserted hlt' hd) (by rw [hde]; rfl) (fun i => by rw [hde]; rfl) ?_ ?_
        ?_ ?_ hs hfree ?_ (by rw [hde]; rfl) (by rw [hde]; rfl)
      · rw [← hsid]
        exact ofNat_ne_idInvalid (hb'.lt hlt')
      · rw [hslot]
        exact hno
      · rw [hkid]
        exact SockState.noConfusion
      · intro id hin
        have hne : id.toNat ≠ sockId.toNat := by
          intro he
          rw [hslot, UInt32.toNat_inj.mp he] at hin
          exact hno hin
        have hkeep : keyOf c' id = keyOf ctx id := by
          refine ((hr.key _).trans (if_neg hne)).trans ?_
          rcases hk with ⟨-, rfl⟩ | ⟨-, ha⟩
          · rfl
          · exact (ha.key _).trans (if_neg hne)
        rw [hkeep, hkid]
        exact hfresh id ((hslot id).mp hin)
      · rw [hde, hid]
        rfl

theorem FlowBut.bump {env : TcpCtx} (h : FlowBut ctx none) (hok : FlowOk ctx (.fastDeq env)) :
    FlowBut (slowNext ctx (.fastDeq env)) none := by
  rcases fastDeq_cases ctx env with hs | ⟨sockId, txPort, txIp, txAvail, hqe, hr⟩
  · exact h.same hs.toSameCore
  · have hsid : UInt32.ofNat sockId.toNat = sockId := UInt32.ofNat_toNat
    have hb := h.base.rekeyed hr rfl (fun hc => hc) (fun _ => rfl)
    refine h.rekeyed hb hr ?_ ?_
    · intro hid
      have hlive := h.live _ hid
      rw [hsid] at hid hlive
      obtain ⟨hip, hport⟩ := hok sockId txPort txIp txAvail hqe hid
      refine ⟨?_, hlive⟩
      have h₁ : deqGetTxIp (ctx.sock sockId.toNat) txIp = (ctx.sock sockId.toNat).remoteIp := by
        unfold deqGetTxIp
        split
        · rfl
        · next hne => exact hip.resolve_left hne
      have h₂ : deqGetTxPort (ctx.sock sockId.toNat) txPort =
          (ctx.sock sockId.toNat).remotePort := by
        unfold deqGetTxPort
        split
        · rfl
        · next hne => exact hport.resolve_left hne
      unfold bumpedKey
      rw [h₁, h₂]
      rfl
    · intro hc _
      have hst : (ctx.sock sockId.toNat).state.connected = true := hc
      refine h.here _ ?_ hst nofun
      apply h.base.lt_of_state
      · exact SockState.connected_live hst
      · intro hi
        rw [hi] at hst
        cases hst

/-- **One event.** -/
theorem FlowBut.next {act : SlowAct} (h : FlowBut ctx none) (hok : FlowOk ctx act) :
    FlowBut (slowNext ctx act) none := by
  cases act with
  | newSock appId ctxId opaquePtr =>
    rcases appNewSock_cases ctx appId ctxId opaquePtr with hu | ⟨c, ha, hs, -⟩
    · exact h.prim (.unalloc hu)
    · exact (h.alloc ha).same hs.toSameCore
  | setopt appId ctxId sockId opt opaquePtr =>
    exact h.same (same_appSetopt ctx _ _ _ _ _).toSameCore
  | bind appId ctxId sockId localIp localPort opaquePtr => exact h.bind hok
  | connect appId ctxId sockId remoteIp remotePort opaquePtr => exact h.connect hok
  | listen appId ctxId sockId backlog opaquePtr callocOk =>
    rcases appListen_cases ctx appId ctxId sockId.toNat backlog opaquePtr callocOk with
      hs | ⟨ht, c, c', hs, hr, hs'⟩
    · exact h.same hs.toSameCore
    · have hc := (h.same hs.toSameCore).same (core_setListener c (ctx.sock sockId.toNat).id.toNat
        (listenerOpen (ctx.listeners (ctx.sock sockId.toNat).id.toNat) backlog))
      refine FlowBut.same (hc.rekeyed ?_ hr ?_ nofun) hs'.toSameCore
      · refine hc.base.rekeyed hr ?_ nofun ?_
        · exact (congrArg SockKey.id (hs.key sockId.toNat)).symm
        · intro hge
          rw [show (c.setListener _ _).nSocks = ctx.nSocks from hs.nSocks] at hge
          exact absurd ht.1 (Nat.not_lt_of_le hge)
      · intro _
        refine ⟨?_, SockState.noConfusion⟩
        show _ = (c.sock sockId.toNat).key.tuple
        rw [hs.key]
        rfl
  | accept appId ctxId sockId opaquePtr => exact h.steps (steps_appAccept h.base _ _ _)
  | shutdown sockId how => exact h.steps (steps_appShutdown h.base _)
  | close sockId => exact h.steps (steps_appClose h.base)
  | segment p core => exact h.steps (steps_ctlRx h.base p core)
  | timeout entry => exact h.steps (steps_timeout h.base entry)
  | fastRx env => exact h.same (same_fastRx ctx env).toSameCore
  | fastDeq env => exact h.bump hok
  | fastSched env => exact h.same (same_fastSched ctx env).toSameCore
  | drain q => exact h.same (same_drain ctx q).toSameCore

end requests

/-! ## Every run -/

/-- A socket of a connection, by its state or by the table. -/
def InConn (ctx : TcpSlowCtx) (i : Nat) : Prop :=
  (ctx.sock i).state.connected = true ∨ HasSlot ctx (UInt32.ofNat i)

/-- What a flow table is for. -/
structure FlowTable (ctx : TcpSlowCtx) : Prop where
  /-- A slot in use names an open socket whose 4-tuple hashes to its bucket. -/
  slot : ∀ h s, s < tcpFlowBucketSlots → ctx.maps.buckets h s ≠ idInvalid →
    (ctx.maps.buckets h s).toNat < ctx.nSocks ∧
      (ctx.sock (ctx.maps.buckets h s).toNat).state ≠ .closed ∧
      (ctx.sock (ctx.maps.buckets h s).toNat).key.bucket = h
  /-- No id is in two slots. -/
  once : ∀ h s h' s', s < tcpFlowBucketSlots → s' < tcpFlowBucketSlots →
    ctx.maps.buckets h s ≠ idInvalid → ctx.maps.buckets h s = ctx.maps.buckets h' s' →
    h = h' ∧ s = s'
  /-- No two connections have the same 4-tuple. -/
  distinct : ∀ i j, i < ctx.nSocks → j < ctx.nSocks → InConn ctx i → InConn ctx j →
    (ctx.sock i).key.tuple = (ctx.sock j).key.tuple → i = j
  /-- Both paths find a connection by its 4-tuple. -/
  found : ∀ i, i < ctx.nSocks → (ctx.sock i).state.connected = true →
    tcpFlowLookup ctx (ctx.sock i).localIp (ctx.sock i).localPort (ctx.sock i).remoteIp
      (ctx.sock i).remotePort = some i ∧
    ∀ env : TcpCtx, ipDst env.pkt = (ctx.sock i).localIp →
      tcpDest env.pkt = (ctx.sock i).localPort → ipSrc env.pkt = (ctx.sock i).remoteIp →
      tcpSrc env.pkt = (ctx.sock i).remotePort → sockFind (fastWith env ctx) = some i

theorem FlowBut.table {ctx : TcpSlowCtx} (h : FlowBut ctx none) : FlowTable ctx := by
  have hin : ∀ i, i < ctx.nSocks → InConn ctx i → HasSlot ctx (UInt32.ofNat i) := by
    intro i hi hc
    rcases hc with hc | hc
    · exact h.here i hi hc nofun
    · exact hc
  refine ⟨?_, h.placed.once, ?_, ?_⟩
  · intro k s hs hne
    have hslot : HasSlot ctx (ctx.maps.buckets k s) := ⟨hne, k, s, hs, rfl⟩
    exact ⟨h.base.slot_lt hslot, h.live _ hslot, h.placed.home k s hs hne⟩
  · intro i j hi hj hci hcj he
    have heq := h.apart _ _ (hin i hi hci) (hin j hj hcj) (by
      rw [h.base.keyOf_ofNat hi, h.base.keyOf_ofNat hj]
      exact he)
    exact ofNat_sock_inj (h.base.lt hi) (h.base.lt hj) heq
  · intro i hi hc
    have hf := h.lookup (h.here i hi hc nofun)
    rw [h.base.keyOf_ofNat hi, toNat_ofNat_sock (h.base.lt hi)] at hf
    refine ⟨hf, ?_⟩
    intro env h₁ h₂ h₃ h₄
    rw [h.sockFind_eq, h₁, h₂, h₃, h₄]
    exact hf

/-- **The flow table, along every run** in which no bind and no transmit bump
moves a socket of the table to another address, and no connect names a
socket or a 4-tuple that is in it. -/
theorem flow_table_exact {ctx₀ ctx : TcpSlowCtx} {log : List Unit} (h₀ : SlowInit ctx₀)
    (hr : Run FlowOk slowStep ctx₀ log ctx) : FlowTable ctx :=
  FlowBut.table (Run.inv (I := fun _ ctx => FlowBut ctx none) h₀.flow
    (fun _ _ _ h hok => h.next hok) hr)

/-- A connect on a fresh socket meets the condition. -/
theorem flow_table_exact_connect :
    ((slowNext (slowNext freshSlow (.newSock 0 0 0)) (.connect 0 0 0 0x0a000002 80 0)).sock
      0).state = .synSent ∧
    FlowTable (slowNext (slowNext freshSlow (.newSock 0 0 0))
      (.connect 0 0 0 0x0a000002 80 0)) := by
  have hno : ∀ id, ¬HasSlot (slowNext freshSlow (.newSock 0 0 0)) id := by
    rintro id ⟨hne, _, _, _, he⟩
    exact hne he.symm
  refine ⟨by decide, flow_table_exact freshSlow_init
    (Run.snoc (a := SlowAct.connect 0 0 0 0x0a000002 80 0)
      (Run.snoc (a := SlowAct.newSock 0 0 0) Run.nil trivial) ?_)⟩
  intro _
  exact ⟨hno 0, fun id hid => absurd hid (hno id)⟩

/-- A socket that connects and is bound again. -/
def rebindRun : List SlowAct :=
  [.newSock 0 0 0, .connect 0 0 0 0x0a000002 80 0, .bind 0 0 0 0x0a000001 8080 0]

/-- The bind moves the connection from bucket 953 to bucket 4035; its slot
stays behind. -/
theorem flow_table_stale :
    ¬ ∀ (ctx₀ ctx : TcpSlowCtx) (log : List Unit), SlowInit ctx₀ →
      Run (fun _ _ => True) slowStep ctx₀ log ctx → FlowTable ctx := by
  intro h
  have ht := h freshSlow _ _ freshSlow_init (Run.execAll rebindRun Run.nil)
  have hslot := (ht.slot 953 0 (by decide) (by decide)).2.2
  exact absurd hslot (by decide)

end Chamelio.Tcp
