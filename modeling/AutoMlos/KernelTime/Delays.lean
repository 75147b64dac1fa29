import AutoMlos.KernelTime
import Mathlib.Algebra.Ring.Nat

/-!
# AutoMlos.KernelTime.Delays

How long a delay takes.

A delay in microseconds reads the clock until the difference to its first
reading is large enough, in 64 bits; on a clock that never runs backwards it is
never short.  A delay in milliseconds is scaled to microseconds in 32 bits
before, so it is short where the product wraps.
-/

namespace AutoMlos

open Lib

/-! ## delays on a clock -/

/-- A microsecond clock that does not run backwards: what each reading
returns. -/
structure TickClock where
  reading : Nat → UInt64
  mono : ∀ i j, i ≤ j → reading i ≤ reading j

namespace TickClock

variable (clock : TickClock)

/-- Reading the clock once more. -/
def read (n : Nat) : Outcome (UInt64 × Nat) := .ok (clock.reading n, n + 1)

/-- The microseconds from one reading to another. -/
def elapsed (first last : Nat) : Nat := (clock.reading last).toNat - (clock.reading first).toNat

/-- A delay from some reading on does not return before this time is over. -/
def NeverShort (delay : Nat → Nat → Outcome Nat) (us : Nat) : Prop :=
  ∀ fuel first next, delay fuel first = .ok next → us ≤ clock.elapsed first (next - 1)

variable {clock}

theorem toNat_sub_reading {first last : Nat} (h : first ≤ last) :
    (clock.reading last - clock.reading first).toNat = clock.elapsed first last :=
  UInt64.toNat_sub_of_le _ _ (clock.mono _ _ h)

/-- The loop ends with a reading that is late enough. -/
theorem elapsed_of_delayLoopBy {first n next : Nat} {us : UInt32} {fuel : Nat} (hn : first < n)
    (h : delayLoopBy clock.read (clock.reading first) us fuel n = .ok next) :
    us.toNat ≤ clock.elapsed first (next - 1) := by
  induction fuel generalizing n with
  | zero => contradiction
  | succ fuel ih =>
      simp only [delayLoopBy, read, Outcome.ok_bind] at h
      split at h
      · exact ih (Nat.lt_succ_of_lt hn) h
      · next hlate =>
        obtain rfl := Outcome.ok.inj h
        rw [UInt64.lt_iff_toNat_lt, toNat_sub_reading (Nat.le_of_lt hn), UInt32.toNat_toUInt64]
          at hlate
        exact Nat.le_of_not_lt hlate

theorem neverShort_delayUs (us : UInt32) :
    clock.NeverShort (kernelTimeDelayUsBy clock.read us) us.toNat := by
  intro fuel first next h
  exact elapsed_of_delayLoopBy (Nat.lt_succ_self first) h

/-- A clock that jumps ahead once, after its first reading. -/
def jump (us : UInt64) : TickClock where
  reading n := if n = 0 then 0 else us
  mono := by
    intro i j hij
    by_cases hi : i = 0
    · simp [hi]
    · have hj : j ≠ 0 := by omega
      simp [hi, hj]

/-- On that clock a delay takes just the time it was called with. -/
theorem delayUs_jump (us : UInt32) :
    kernelTimeDelayUsBy (jump us.toUInt64).read us 1 0 = .ok 2 ∧
      (jump us.toUInt64).elapsed 0 1 = us.toNat := by
  simp [kernelTimeDelayUsBy, delayLoopBy, read, jump, elapsed]

end TickClock

/-- On every clock that does not run backwards a delay in microseconds is never
short, and one in milliseconds is never short if and only if the time in
microseconds fits in 32 bits. -/
theorem delays_never_short_iff (us ms : UInt32) :
    (∀ clock : TickClock, clock.NeverShort (kernelTimeDelayUsBy clock.read us) us.toNat) ∧
    ((∀ clock : TickClock,
        clock.NeverShort (kernelTimeDelayMsBy clock.read ms) (1000 * ms.toNat)) ↔
      1000 * ms.toNat < 2 ^ 32) := by
  refine ⟨fun clock => clock.neverShort_delayUs us, ?_⟩
  have hscaled : (ms * 1000).toNat = 1000 * ms.toNat % 2 ^ 32 := by
    rw [UInt32.toNat_mul, Nat.mul_comm]
    rfl
  constructor
  · intro h
    obtain ⟨hreturns, htakes⟩ := TickClock.delayUs_jump (ms * 1000)
    have hlong := h _ 1 0 2 hreturns
    rw [show 2 - 1 = 1 from rfl, htakes, hscaled] at hlong
    exact Nat.lt_of_le_of_lt hlong (Nat.mod_lt _ (by decide))
  · intro hfits clock
    rw [← Nat.mod_eq_of_lt hfits, ← hscaled]
    exact clock.neverShort_delayUs (ms * 1000)

/-- A delay of 4294968 ms may take 704 µs. -/
theorem delay_ms_short :
    ¬ ∀ us ms : UInt32,
      (∀ clock : TickClock, clock.NeverShort (kernelTimeDelayUsBy clock.read us) us.toNat) ∧
      (∀ clock : TickClock,
        clock.NeverShort (kernelTimeDelayMsBy clock.read ms) (1000 * ms.toNat)) := by
  intro h
  have hlong := (h 0 4294968).2 (.jump 704) 1 0 2 (by decide)
  exact absurd hlong (by decide)

end AutoMlos
