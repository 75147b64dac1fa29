import AutoMlos.Interrupt.Analysis

/-!
# AutoMlos.Interrupt.Counting

Whether interrupts are counted.

The counters and their total have 32 bits.  With every latency acceptable, the
total is the number of interrupts exactly if that fits, and then the safety
check fails exactly for a line with more than 1000 of them.
-/

namespace AutoMlos

open Lib

section Counting

variable {γ υ : Type} {is : List Interrupt} {s : InterruptController γ υ}

/-- The safety check fails exactly for a line with more than 1000 interrupts,
and the total is the number of interrupts on a line. -/
structure CountingExact (is : List Interrupt) (s : InterruptController γ υ) : Prop where
  safetyCheck : (interruptSafetyCheck s).errorCode ≠ errSysOk ↔
    ∃ line, 1000 < is.countP fun i => irqLine? i.irqNumber = some line
  analysis : ∃ analysis, (interruptPerformTimingAnalysis false s).2 = some analysis ∧
    analysis.totalInterrupts.toNat =
      is.countP fun i => i.irqNumber.toNat < interruptMaxHandlers

/-- The interrupts on a line are those with a number below the number of
lines. -/
theorem countP_line_eq (is : List Interrupt) :
    (is.countP fun i => i.line?.isSome) =
      is.countP fun i => i.irqNumber.toNat < interruptMaxHandlers := by
  refine List.countP_congr fun i _ => ?_
  simp only [Interrupt.line?, irqLine?, decide_eq_true_eq]
  split_ifs with hlt <;> simp [hlt]

theorem length_recordedLatencies (line : IrqLine) (is : List Interrupt) :
    (recordedLatencies line is).length = is.countP fun i => irqLine? i.irqNumber = some line := by
  rw [recordedLatencies, track, List.length_map, List.countP_eq_length_filter]
  rfl

theorem length_recordedLatencies_le (line : IrqLine) (is : List Interrupt) :
    (recordedLatencies line is).length ≤
      is.countP fun i => i.irqNumber.toNat < interruptMaxHandlers := by
  rw [length_recordedLatencies, ← countP_line_eq]
  refine List.countP_mono_left fun i _ hline => ?_
  rw [Interrupt.line?, of_decide_eq_true hline, Option.isSome_some]

/-- Every latency that is recorded is acceptable. -/
def Acceptable (is : List Interrupt) : Prop :=
  ∀ i ∈ is, i.irqNumber.toNat < interruptMaxHandlers → i.latencyUs ≤ maxAcceptableLatencyUs

instance (is : List Interrupt) : Decidable (Acceptable is) :=
  inferInstanceAs (Decidable (∀ i ∈ is, _))

theorem Acceptable.recorded (h : Acceptable is) {line : IrqLine} {l : UInt64}
    (hl : l ∈ recordedLatencies line is) : l ≤ maxAcceptableLatencyUs := by
  obtain ⟨i, hi, rfl⟩ := List.mem_map.mp hl
  obtain ⟨hmem, hline⟩ := List.mem_filter.mp hi
  refine h i hmem ?_
  by_contra hout
  have hsome : irqLine? i.irqNumber = some line := of_decide_eq_true hline
  rw [irqLine?, dif_neg hout] at hsome
  exact absurd hsome (by simp)

namespace Traced

/-- The total is the number of interrupts on a line, in 32 bits. -/
theorem totalInterrupts_eq (h : Traced is s) :
    s.analysis.totalInterrupts.toNat =
      (is.countP fun i => i.irqNumber.toNat < interruptMaxHandlers) % 2 ^ 32 := by
  have hcounter (line : IrqLine) :
      (s.interruptCounters line).toNat = (recordedLatencies line is).length % 2 ^ 32 := by
    rw [h.counter, UInt32.toNat_ofNat']
  have hsum : ∑ line, (recordedLatencies line is).length =
      is.countP fun i => i.irqNumber.toNat < interruptMaxHandlers :=
    (sum_length_track is).trans (countP_line_eq is)
  calc s.analysis.totalInterrupts.toNat
      = (∑ line, (s.interruptCounters line).toNat) % 2 ^ 32 := totalInterrupts_analyseLines s
    _ = (∑ line, (recordedLatencies line is).length % 2 ^ 32) % 2 ^ 32 := by simp only [hcounter]
    _ = (∑ line, (recordedLatencies line is).length) % 2 ^ 32 := (Finset.sum_nat_mod _ _ _).symm
    _ = _ := by rw [hsum]

/-- With every latency acceptable, no line violates. -/
theorem not_violates (h : Traced is s) (hacceptable : Acceptable is) (line : IrqLine) :
    ¬ s.Violates line := by
  rintro ⟨-, hlate⟩
  rw [h.latency] at hlate
  have hne : latestLatency line is ≠ 0 := by
    intro hzero
    rw [hzero] at hlate
    exact absurd hlate (by decide)
  exact UInt64.not_lt.mpr (hacceptable.recorded (latestLatency_mem hne)) hlate

/-- Counting is exact exactly while the number of interrupts fits. -/
theorem countingExact_iff (h : Traced is s) (hacceptable : Acceptable is) :
    CountingExact is s ↔
      (is.countP fun i => i.irqNumber.toNat < interruptMaxHandlers) < 2 ^ 32 := by
  constructor
  · intro hexact
    obtain ⟨analysis, hstored, htotal⟩ := hexact.analysis
    rw [← htotal]
    exact analysis.totalInterrupts.toNat_lt
  · intro hfits
    refine ⟨?_, s.analysis, rfl, ?_⟩
    · have hcounter (line : IrqLine) : 1000 < s.interruptCounters line ↔
          1000 < is.countP fun i => irqLine? i.irqNumber = some line := by
        have hle := length_recordedLatencies_le line is
        rw [h.counter, UInt32.lt_iff_toNat_lt, UInt32.toNat_ofNat',
          Nat.mod_eq_of_lt (hle.trans_lt hfits), length_recordedLatencies]
        rfl
      rw [interruptSafetyCheck_error_iff s h.initialized,
        or_iff_left fun ⟨line, hline⟩ => h.not_violates hacceptable line hline]
      exact exists_congr hcounter
    · rw [h.totalInterrupts_eq, Nat.mod_eq_of_lt hfits]

end Traced

/-- After every run of interrupts with acceptable latencies, counting is exact
exactly while the number of interrupts fits in 32 bits. -/
theorem counting_exact_iff (is : List Interrupt) (hacceptable : Acceptable is) :
    CountingExact is (afterInterrupts (γ := γ) (υ := υ) is) ↔
      (is.countP fun i => i.irqNumber.toNat < interruptMaxHandlers) < 2 ^ 32 :=
  (traced_afterInterrupts is).countingExact_iff hacceptable

end Counting

theorem counting_exact_two :
    CountingExact [⟨3, 0, 50⟩, ⟨40, 7, 5⟩]
      (afterInterrupts (γ := Unit) (υ := Unit) [⟨3, 0, 50⟩, ⟨40, 7, 5⟩]) ↔
    ([⟨3, 0, 50⟩, ⟨40, 7, 5⟩] : List Interrupt).countP
      (fun i => i.irqNumber.toNat < interruptMaxHandlers) < 2 ^ 32 :=
  counting_exact_iff _ (by decide)

/-- After 2^32 interrupts the total is zero. -/
theorem counting_inexact :
    ¬ ∀ is : List Interrupt, Acceptable is →
      CountingExact is (afterInterrupts (γ := Unit) (υ := Unit) is) := by
  intro h
  have hacceptable : Acceptable (List.replicate (2 ^ 32) ⟨0, 0, 0⟩) := by
    intro i hi _
    rw [List.eq_of_mem_replicate hi]
    decide
  have hfits := ((traced_afterInterrupts _).countingExact_iff hacceptable).mp (h _ hacceptable)
  rw [List.countP_replicate] at hfits
  exact absurd hfits (by decide)

end AutoMlos
