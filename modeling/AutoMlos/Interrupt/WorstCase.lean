import AutoMlos.Interrupt.Analysis

/-!
# AutoMlos.Interrupt.WorstCase

Which latencies the controller remembers.

The statistics of a line report its latest latency as the worst one, and the
analysis looks at the latest latencies of the lines whose counter is not zero.
So nothing is forgotten exactly if the latest latency of each line is its
worst, and a line whose counter has come back to zero is covered by another.
-/

namespace AutoMlos

open Lib

section WorstCase

variable {γ υ : Type} {is : List Interrupt} {s : InterruptController γ υ}

/-- No latency that was recorded exceeds the worst one of its line or of the
system, and one that is not acceptable is seen in the status. -/
structure WorstCaseKept (is : List Interrupt) (s : InterruptController γ υ) : Prop where
  statistics : ∀ irqNumber line, irqLine? irqNumber = some line →
    ∃ stats, (interruptGetTimingStatistics irqNumber false s).2 = some stats ∧
      ∀ l ∈ recordedLatencies line is, l ≤ stats.worstCaseLatencyUs
  analysis : ∃ analysis, (interruptPerformTimingAnalysis false s).2 = some analysis ∧
    (∀ line, ∀ l ∈ recordedLatencies line is, l ≤ analysis.systemWorstLatency) ∧
    ((∃ line, ∃ l ∈ recordedLatencies line is, maxAcceptableLatencyUs < l) →
      analysis.complianceStatus = interruptTimingNonCompliant)

/-- The latest latency of each line is its worst, and a line with a multiple of
2^32 interrupts is covered by one without. -/
structure LatestIsWorst (is : List Interrupt) : Prop where
  worst : ∀ line, ∀ l ∈ recordedLatencies line is, l ≤ latestLatency line is
  covered : ∀ line, 2 ^ 32 ∣ (recordedLatencies line is).length → latestLatency line is ≠ 0 →
    ∃ other, ¬ 2 ^ 32 ∣ (recordedLatencies other is).length ∧
      latestLatency line is ≤ latestLatency other is

/-- Every line has a number. -/
theorem exists_irqLine?_eq (line : IrqLine) : ∃ irqNumber, irqLine? irqNumber = some line := by
  have hline : (UInt32.ofNat line).toNat = line :=
    UInt32.toNat_ofNat_of_lt' (line.isLt.trans (by decide))
  refine ⟨UInt32.ofNat line, ?_⟩
  have hlt : (UInt32.ofNat line).toNat < interruptMaxHandlers := by
    rw [hline]
    exact line.isLt
  rw [irqLine?, dif_pos hlt]
  exact congrArg some (Fin.ext hline)

namespace Traced

/-- A counter is zero after multiples of 2^32. -/
theorem counter_pos_iff (h : Traced is s) (line : IrqLine) :
    0 < s.interruptCounters line ↔ ¬ 2 ^ 32 ∣ (recordedLatencies line is).length := by
  rw [h.counter, UInt32.lt_iff_toNat_lt, UInt32.toNat_ofNat', Nat.dvd_iff_mod_eq_zero,
    UInt32.toNat_zero, Nat.pos_iff_ne_zero]

/-- The worst latency of the system covers what a counting line recorded
last. -/
theorem le_systemWorstLatency_iff (h : Traced is s) (l : UInt64) :
    l ≤ s.analysis.systemWorstLatency ↔
      l = 0 ∨ ∃ line, ¬ 2 ^ 32 ∣ (recordedLatencies line is).length ∧
        l ≤ latestLatency line is := by
  rw [show s.analysis.systemWorstLatency = (analyseLines s).systemWorstLatency from rfl,
    le_systemWorstLatency_analyseLines]
  simp only [h.counter_pos_iff, h.latency]

theorem statistics_iff (h : Traced is s) :
    (∀ irqNumber line, irqLine? irqNumber = some line →
      ∃ stats, (interruptGetTimingStatistics irqNumber false s).2 = some stats ∧
        ∀ l ∈ recordedLatencies line is, l ≤ stats.worstCaseLatencyUs) ↔
    ∀ line, ∀ l ∈ recordedLatencies line is, l ≤ latestLatency line is := by
  have hreport {irqNumber : UInt32} {line : IrqLine} (hline : irqLine? irqNumber = some line) :
      ∃ stats, (interruptGetTimingStatistics irqNumber false s).2 = some stats ∧
        stats.worstCaseLatencyUs = latestLatency line is := by
    simp only [interruptGetTimingStatistics, hline]
    exact ⟨_, rfl, h.latency line⟩
  constructor
  · intro hstats line
    obtain ⟨irqNumber, hline⟩ := exists_irqLine?_eq line
    obtain ⟨stats, hstored, hworst⟩ := hreport hline
    obtain ⟨stats', hstored', hle⟩ := hstats irqNumber line hline
    obtain rfl : stats = stats' := Option.some.inj (hstored.symm.trans hstored')
    rwa [hworst] at hle
  · intro hworst irqNumber line hline
    obtain ⟨stats, hstored, hreported⟩ := hreport hline
    exact ⟨stats, hstored, hreported ▸ hworst line⟩

/-- With the latest latencies the worst, the status shows one that is not
acceptable. -/
theorem nonCompliant_of_latestIsWorst (h : Traced is s) (hlatest : LatestIsWorst is)
    {line : IrqLine} {l : UInt64} (hl : l ∈ recordedLatencies line is)
    (hlate : maxAcceptableLatencyUs < l) :
    s.analysis.complianceStatus = interruptTimingNonCompliant := by
  rw [complianceStatus_analysis_iff]
  have hlatestLate : maxAcceptableLatencyUs < latestLatency line is :=
    UInt64.lt_of_lt_of_le hlate (hlatest.worst line l hl)
  by_cases hcount : 2 ^ 32 ∣ (recordedLatencies line is).length
  · have hne : latestLatency line is ≠ 0 := by
      intro hzero
      rw [hzero] at hlatestLate
      exact absurd hlatestLate (by decide)
    obtain ⟨other, hother, hle⟩ := hlatest.covered line hcount hne
    refine ⟨other, (h.counter_pos_iff other).mpr hother, ?_⟩
    rw [h.latency]
    exact UInt64.lt_of_lt_of_le hlatestLate hle
  · refine ⟨line, (h.counter_pos_iff line).mpr hcount, ?_⟩
    rw [h.latency]
    exact hlatestLate

theorem worstCaseKept_iff (h : Traced is s) : WorstCaseKept is s ↔ LatestIsWorst is := by
  constructor
  · intro hkept
    have hworst := h.statistics_iff.mp hkept.statistics
    refine ⟨hworst, fun line _ hne => ?_⟩
    obtain ⟨analysis, hstored, hsystem, -⟩ := hkept.analysis
    obtain rfl : s.analysis = analysis := Option.some.inj hstored
    have hle := hsystem line _ (latestLatency_mem hne)
    exact ((h.le_systemWorstLatency_iff _).mp hle).resolve_left hne
  · intro hlatest
    refine ⟨h.statistics_iff.mpr hlatest.worst, s.analysis, rfl, fun line l hl => ?_, ?_⟩
    · refine UInt64.le_trans (hlatest.worst line l hl) ((h.le_systemWorstLatency_iff _).mpr ?_)
      by_cases hne : latestLatency line is = 0
      · exact .inl hne
      · by_cases hcount : 2 ^ 32 ∣ (recordedLatencies line is).length
        · exact .inr (hlatest.covered line hcount hne)
        · exact .inr ⟨line, hcount, UInt64.le_refl _⟩
    · rintro ⟨line, l, hl, hlate⟩
      exact h.nonCompliant_of_latestIsWorst hlatest hl hlate

end Traced

/-- After every run of interrupts, no latency is forgotten exactly if the latest
ones are the worst. -/
theorem worst_case_kept_iff (is : List Interrupt) :
    WorstCaseKept is (afterInterrupts (γ := γ) (υ := υ) is) ↔ LatestIsWorst is :=
  (traced_afterInterrupts is).worstCaseKept_iff

end WorstCase

/-- A latency of 60 is forgotten when one of 10 follows on the same line. -/
theorem worst_case_forgotten :
    ¬ ∀ is : List Interrupt, WorstCaseKept is (afterInterrupts (γ := Unit) (υ := Unit) is) := by
  intro h
  obtain ⟨stats, hstored, hle⟩ := (h [⟨3, 0, 60⟩, ⟨3, 100, 110⟩]).statistics 3 ⟨3, by decide⟩ rfl
  have hten : stats.worstCaseLatencyUs = 10 := by
    obtain rfl := Option.some.inj hstored
    decide
  have hsixty := hle 60 (by decide)
  rw [hten] at hsixty
  exact absurd hsixty (by decide)

end AutoMlos
