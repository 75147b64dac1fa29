import AutoMlos.Interrupt
import AutoMlos.Lib.Track
import Mathlib.Algebra.BigOperators.Fin
import Mathlib.Algebra.Ring.Nat

/-!
# AutoMlos.Interrupt.Analysis

What the analysis of the lines computes, and what a run of interrupts leaves of
its latencies.

The analysis is one loop over the lines; its three results are a sum, a maximum
and a count.  A run leaves on each line the number of its interrupts, in 32
bits, and the latency of the last of them (`traced_run`).
-/

namespace AutoMlos

open Lib

section Analysis

variable {γ υ : Type} (s : InterruptController γ υ) (a : InterruptTimingAnalysis)

/-- The analysis counts a violation on a line. -/
def InterruptController.Violates (i : IrqLine) : Prop :=
  0 < s.interruptCounters i ∧ maxAcceptableLatencyUs < s.latencyMeasurements i

instance (i : IrqLine) : Decidable (s.Violates i) := inferInstanceAs (Decidable (_ ∧ _))

/-! ## one line -/

theorem totalInterrupts_analyseLine (i : IrqLine) :
    (analyseLine s a i).totalInterrupts = a.totalInterrupts + s.interruptCounters i := by
  by_cases hcount : s.interruptCounters i > 0
  · simp only [analyseLine, if_pos hcount]
    split_ifs <;> rfl
  · have hzero : s.interruptCounters i = 0 := by
      simpa [UInt32.pos_iff_ne_zero] using hcount
    rw [analyseLine, if_neg hcount, hzero, UInt32.add_zero]

theorem le_systemWorstLatency_analyseLine (i : IrqLine) (l : UInt64) :
    l ≤ (analyseLine s a i).systemWorstLatency ↔
      l ≤ a.systemWorstLatency ∨ 0 < s.interruptCounters i ∧ l ≤ s.latencyMeasurements i := by
  by_cases hcount : s.interruptCounters i > 0
  · by_cases hworse : s.latencyMeasurements i > a.systemWorstLatency
    · have hresult : (analyseLine s a i).systemWorstLatency = s.latencyMeasurements i := by
        simp only [analyseLine, if_pos hcount, if_pos hworse]
        split_ifs <;> rfl
      rw [hresult, and_iff_right hcount, iff_or_self]
      intro hle
      exact UInt64.le_of_lt (UInt64.lt_of_le_of_lt hle hworse)
    · have hresult : (analyseLine s a i).systemWorstLatency = a.systemWorstLatency := by
        simp only [analyseLine, if_pos hcount, if_neg hworse]
        split_ifs <;> rfl
      rw [hresult, and_iff_right hcount, iff_self_or]
      intro hle
      exact UInt64.le_trans hle (UInt64.not_lt.mp hworse)
  · rw [analyseLine, if_neg hcount, or_iff_left (fun h => hcount h.1)]

theorem violationCount_analyseLine (i : IrqLine) :
    (analyseLine s a i).violationCount = a.violationCount + if s.Violates i then 1 else 0 := by
  by_cases hcount : s.interruptCounters i > 0
  · by_cases hlate : s.latencyMeasurements i > maxAcceptableLatencyUs
    · have hviolates : s.Violates i := ⟨hcount, hlate⟩
      simp only [analyseLine, if_pos hcount, if_pos hlate, if_pos hviolates]
      split_ifs <;> rfl
    · have hkept : ¬ s.Violates i := fun h => hlate h.2
      simp only [analyseLine, if_pos hcount, if_neg hlate, if_neg hkept, UInt32.add_zero]
      split_ifs <;> rfl
  · have hkept : ¬ s.Violates i := fun h => hcount h.1
    rw [analyseLine, if_neg hcount, if_neg hkept, UInt32.add_zero]

/-! ## all lines -/

theorem totalInterrupts_foldl (is : List IrqLine) :
    (is.foldl (analyseLine s) a).totalInterrupts.toNat =
      (a.totalInterrupts.toNat + (is.map fun i => (s.interruptCounters i).toNat).sum) % 2 ^ 32 := by
  induction is generalizing a with
  | nil => exact (Nat.mod_eq_of_lt a.totalInterrupts.toNat_lt).symm
  | cons i is ih =>
      rw [List.foldl_cons, ih, totalInterrupts_analyseLine, UInt32.toNat_add, Nat.mod_add_mod,
        List.map_cons, List.sum_cons, Nat.add_assoc]

theorem le_systemWorstLatency_foldl (is : List IrqLine) (l : UInt64) :
    l ≤ (is.foldl (analyseLine s) a).systemWorstLatency ↔
      l ≤ a.systemWorstLatency ∨
        ∃ i ∈ is, 0 < s.interruptCounters i ∧ l ≤ s.latencyMeasurements i := by
  induction is generalizing a with
  | nil => simp
  | cons i is ih =>
      rw [List.foldl_cons, ih, le_systemWorstLatency_analyseLine, or_assoc,
        List.exists_mem_cons_iff]

theorem violationCount_foldl (is : List IrqLine) :
    (is.foldl (analyseLine s) a).violationCount.toNat =
      (a.violationCount.toNat + is.countP fun i => s.Violates i) % 2 ^ 32 := by
  induction is generalizing a with
  | nil => exact (Nat.mod_eq_of_lt a.violationCount.toNat_lt).symm
  | cons i is ih =>
      have hone : (if s.Violates i then 1 else 0 : UInt32).toNat =
          if s.Violates i then 1 else 0 := by
        split_ifs <;> rfl
      rw [List.foldl_cons, ih, violationCount_analyseLine, UInt32.toNat_add, Nat.mod_add_mod,
        List.countP_cons, hone, Nat.add_assoc]
      simp only [decide_eq_true_eq, Nat.add_comm]

/-- The total is the sum of the counters, in 32 bits. -/
theorem totalInterrupts_analyseLines :
    (analyseLines s).totalInterrupts.toNat = (∑ i, (s.interruptCounters i).toNat) % 2 ^ 32 := by
  rw [analyseLines, totalInterrupts_foldl, Fin.sum_univ_def]
  exact congrArg (· % 2 ^ 32) (Nat.zero_add _)

/-- A latency is within the worst one exactly if it is within that of a line
that has counted. -/
theorem le_systemWorstLatency_analyseLines (l : UInt64) :
    l ≤ (analyseLines s).systemWorstLatency ↔
      l = 0 ∨ ∃ i, 0 < s.interruptCounters i ∧ l ≤ s.latencyMeasurements i := by
  rw [analyseLines, le_systemWorstLatency_foldl]
  simp

/-- There are too few lines for the violations to overflow. -/
theorem violationCount_analyseLines_eq_zero_iff :
    (analyseLines s).violationCount = 0 ↔ ∀ i, ¬ s.Violates i := by
  have hle := List.countP_le_length (p := fun i => decide (s.Violates i))
    (l := List.finRange interruptMaxHandlers)
  rw [List.length_finRange] at hle
  have hcount : (analyseLines s).violationCount.toNat =
      (List.finRange interruptMaxHandlers).countP fun i => s.Violates i := by
    rw [analyseLines, violationCount_foldl, UInt32.toNat_zero, Nat.zero_add]
    exact Nat.mod_eq_of_lt (hle.trans_lt (by decide))
  rw [← UInt32.toNat_inj, hcount, UInt32.toNat_zero, List.countP_eq_zero]
  simp

/-- What the analysis stores for a caller. -/
def InterruptController.analysis : InterruptTimingAnalysis :=
  { analyseLines s with
    complianceStatus :=
      if (analyseLines s).violationCount = 0 then interruptTimingCompliant
      else interruptTimingNonCompliant }

theorem interruptPerformTimingAnalysis_eq :
    interruptPerformTimingAnalysis false s =
      (interruptError errSysOk .system .low, some s.analysis) :=
  rfl

/-- The analysis reports a violation exactly if a line violates. -/
theorem complianceStatus_analysis_iff :
    s.analysis.complianceStatus = interruptTimingNonCompliant ↔ ∃ i, s.Violates i := by
  have hdiffer : interruptTimingCompliant ≠ interruptTimingNonCompliant := by decide
  by_cases hnone : ∀ i, ¬ s.Violates i
  · have hcompliant : s.analysis.complianceStatus = interruptTimingCompliant :=
      if_pos ((violationCount_analyseLines_eq_zero_iff s).mpr hnone)
    rw [hcompliant]
    exact iff_of_false hdiffer fun ⟨i, hi⟩ => hnone i hi
  · have hnot : s.analysis.complianceStatus = interruptTimingNonCompliant :=
      if_neg (mt (violationCount_analyseLines_eq_zero_iff s).mp hnone)
    exact iff_of_true hnot (not_forall_not.mp hnone)

/-- The safety check of a running controller fails exactly if a line has
counted more than 1000 interrupts or violates. -/
theorem interruptSafetyCheck_error_iff (hinit : s.initialized = true) :
    (interruptSafetyCheck s).errorCode ≠ errSysOk ↔
      (∃ i, 1000 < s.interruptCounters i) ∨ ∃ i, s.Violates i := by
  have hconfig : errSysConfigError ≠ errSysOk := by decide
  rw [← complianceStatus_analysis_iff]
  simp only [interruptSafetyCheck, hinit, interruptPerformTimingAnalysis_eq]
  cases hstorm : (List.finRange interruptMaxHandlers).find? fun i =>
    s.interruptCounters i > 1000 with
  | some i =>
      have hi : s.interruptCounters i > 1000 := by simpa using List.find?_some hstorm
      exact iff_of_true hconfig (.inl ⟨i, hi⟩)
  | none =>
      have hcalm : ¬ ∃ i, 1000 < s.interruptCounters i := by
        rintro ⟨i, hi⟩
        exact List.find?_eq_none.mp hstorm i (List.mem_finRange i) (decide_eq_true hi)
      rw [or_iff_right hcalm]
      by_cases hstatus : s.analysis.complianceStatus = interruptTimingNonCompliant
      · refine iff_of_true ?_ hstatus
        simpa [hstatus, interruptError, systemErrorCreate] using hconfig
      · exact iff_of_false (by simp [hstatus, interruptError, systemErrorCreate]) hstatus

end Analysis

/-! ## a run of interrupts -/

section Trace

variable {γ υ : Type}

/-- The controller after initialisation and a run of interrupts. -/
def afterInterrupts (is : List Interrupt) : InterruptController γ υ :=
  (mealy interruptHandler (interruptControllerInit .cleared).2 is).2

/-- The latencies that were recorded on a line. -/
def recordedLatencies (line : IrqLine) (is : List Interrupt) : List UInt64 :=
  track Interrupt.line? Interrupt.latencyUs line is

/-- The latest latency of a line. -/
def latestLatency (line : IrqLine) (is : List Interrupt) : UInt64 :=
  (recordedLatencies line is).getLastD 0

theorem recordedLatencies_concat_self {line : IrqLine} {i : Interrupt}
    (h : i.line? = some line) (is : List Interrupt) :
    recordedLatencies line (is ++ [i]) = recordedLatencies line is ++ [i.latencyUs] :=
  track_concat_self h is

theorem recordedLatencies_concat_of_ne {line : IrqLine} {i : Interrupt}
    (h : i.line? ≠ some line) (is : List Interrupt) :
    recordedLatencies line (is ++ [i]) = recordedLatencies line is :=
  track_concat_of_ne h is

/-- A latest latency that is not zero was recorded. -/
theorem latestLatency_mem {line : IrqLine} {is : List Interrupt}
    (h : latestLatency line is ≠ 0) :
    latestLatency line is ∈ recordedLatencies line is := by
  rw [latestLatency] at h ⊢
  cases hlast : (recordedLatencies line is).getLast? with
  | none => simp [List.getLastD_eq_getLast?, hlast] at h
  | some l =>
      rw [List.getLastD_eq_getLast?, hlast]
      exact List.mem_of_getLast? hlast

/-- What interrupts leave of their latencies. -/
structure Traced (is : List Interrupt) (s : InterruptController γ υ) : Prop where
  initialized : s.initialized = true
  counter : ∀ line, s.interruptCounters line = UInt32.ofNat (recordedLatencies line is).length
  latency : ∀ line, s.latencyMeasurements line = latestLatency line is

/-- One interrupt is added to the history of its line. -/
theorem Traced.step {is : List Interrupt} {s : InterruptController γ υ} (h : Traced is s)
    (i : Interrupt) : Traced (is ++ [i]) (interruptHandler s i).2 := by
  refine ⟨(initialized_interruptHandler s i).trans h.initialized, fun line => ?_, fun line => ?_⟩
  · rw [interruptCounters_interruptHandler, h.counter]
    by_cases hline : i.line? = some line
    · rw [if_pos hline, recordedLatencies_concat_self hline, List.length_append, UInt32.ofNat_add]
      rfl
    · rw [if_neg hline, recordedLatencies_concat_of_ne hline]
  · rw [latencyMeasurements_interruptHandler, h.latency]
    by_cases hline : i.line? = some line
    · rw [if_pos hline, latestLatency, recordedLatencies_concat_self hline, List.getLastD_concat]
    · rw [if_neg hline, latestLatency, latestLatency, recordedLatencies_concat_of_ne hline]

/-- What a run of interrupts leaves. -/
theorem traced_afterInterrupts (is : List Interrupt) :
    Traced is (afterInterrupts (γ := γ) (υ := υ) is) := by
  have hstart : Traced [] (interruptControllerInit (γ := γ) (υ := υ) .cleared).2 := by
    rw [interruptControllerInit_eq rfl]
    exact ⟨rfl, fun _ => rfl, fun _ => rfl⟩
  exact mealy_history (fun _ _ i h => h.step i) hstart is

end Trace

end AutoMlos
