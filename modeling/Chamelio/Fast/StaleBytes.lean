import Chamelio.Fast.EbpfCtx
import Chamelio.Lib.Ring
import Chamelio.Pkt.Hdr

/-!
# Bytes left over in a packet buffer

A packet buffer is used again and again, and behind the frame that was
received lies what an earlier frame, perhaps of another guest, left there. The
handlers compare the lengths of the headers with the end of the buffer and not
with that of the frame. What they may read is therefore asked with two runs:
the same context twice, with different bytes behind some length. They tell
nothing of these bytes when both runs have the `SameOutcome`: the same return
value, the same maps, queues, scheduler and shared memory, and the same bytes
in the packet that goes out, if one does.
-/

namespace Chamelio.Fast

open Chamelio.Lib Chamelio.Util Chamelio.Pkt

variable {M E R : Type}

/-- The context with other bytes in its packet. -/
def EbpfCtx.withPkt (ctx : EbpfCtx M E) (q : Nat → UInt8) : EbpfCtx M E := { ctx with pkt := q }

@[simp] theorem EbpfCtx.withPkt_pkt (ctx : EbpfCtx M E) (q : Nat → UInt8) :
    (ctx.withPkt q).pkt = q := rfl

/-- The results of a handler on two packets do not tell them apart; `len` is
the length of the packet a return value sends. -/
structure SameOutcome (len : R → Nat) (r r' : EbpfCtx M E × R) : Prop where
  ret : r'.2 = r.2
  rest : r'.1 = r.1.withPkt r'.1.pkt
  sent : ∀ i, i < len r.2 → r'.1.pkt i = r.1.pkt i

/-- A handler that returns without having written to the packet. -/
theorem sameOutcome_silent {len : R → Nat} {ctx : EbpfCtx M E} {q : Nat → UInt8} {ret : R}
    (h : len ret = 0) : SameOutcome len (ctx, ret) (ctx.withPkt q, ret) :=
  ⟨rfl, rfl, fun i hi => absurd hi (by show ¬ i < len ret; omega)⟩

/-! ## Bytes written one after the other -/

/-- The bytes below `n` are the same. -/
def AgreeBelow (n : Nat) (p q : Nat → UInt8) : Prop := ∀ i, i < n → p i = q i

section agree

variable {p q : Nat → UInt8} {o : Nat}

theorem AgreeBelow.put8 (h : AgreeBelow o p q) (x : UInt8) :
    AgreeBelow (o + 1) (put8 p o x) (put8 q o x) := by
  intro i hi
  by_cases hio : i = o
  · rw [hio, put8_self, put8_self]
  · rw [put8_ne _ _ hio, put8_ne _ _ hio]
    exact h i (by omega)

theorem AgreeBelow.put16 (h : AgreeBelow o p q) (x : UInt16) :
    AgreeBelow (o + 2) (put16 p o x) (put16 q o x) := (h.put8 _).put8 _

theorem AgreeBelow.put32 (h : AgreeBelow o p q) (x : UInt32) :
    AgreeBelow (o + 4) (put32 p o x) (put32 q o x) := (((h.put8 _).put8 _).put8 _).put8 _

/-- A byte that was written before is written again. -/
theorem AgreeBelow.rewrite {n : Nat} (h : AgreeBelow n p q) (x : UInt8) :
    AgreeBelow n (Pkt.put8 p o x) (Pkt.put8 q o x) := by
  intro i hi
  by_cases hio : i = o
  · rw [hio, put8_self, put8_self]
  · rw [put8_ne _ _ hio, put8_ne _ _ hio]
    exact h i hi

end agree

/-- A copy reads no byte behind its length. -/
theorem blit_reads {m : Nat → UInt8} {dst : Nat} {src src' : Nat → UInt8} {n : Nat}
    (h : ∀ i, i < n → src' i = src i) : blit m dst src' n = blit m dst src n := by
  funext a
  unfold blit
  split
  · exact h _ (by omega)
  · rfl

/-- Nor does a copy into a ring. -/
theorem ringWrite_reads {m : Nat → UInt8} {base len tail : Nat} {src src' : Nat → UInt8} {n : Nat}
    (h : ∀ i, i < n → src' i = src i) :
    ringWrite m base len tail src' n = ringWrite m base len tail src n := by
  unfold ringWrite
  split
  · exact blit_reads h
  · have hfirst : ∀ k, k ≤ n → blit m (base + tail) src' k = blit m (base + tail) src k :=
      fun k hk => blit_reads fun i hi => h i (by omega)
    rw [hfirst _ (by omega)]
    exact blit_reads fun i hi => h _ (by omega)

end Chamelio.Fast
