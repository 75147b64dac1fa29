import AutoMlos.Scheduler.Creation
import AutoMlos.Scheduler.Utilization
import Mathlib.Algebra.Order.Ring.Pow

/-!
# AutoMlos.Scheduler.Feasibility

Which parameters `scheduler_rt_feasibility_check` accepts, in natural numbers.

The execution time is compared with the period in microseconds, a 32-bit
product (`executionTimeUs_lt_iff`), and the utilization test bounds it by 95
percent of the exact period (`le_of_exactUtilizationTest`).  Nothing compares
it with the deadline.
-/

namespace AutoMlos

namespace RtSchedulingParams

/-- The period in microseconds. -/
def periodUs (params : RtSchedulingParams) : Nat := params.periodMs.toNat * 1000

/-- The execution time in microseconds. -/
def executionTimeUs (params : RtSchedulingParams) : Nat :=
  params.worstCaseExecutionTimeUs.toNat

/-- The fields are not zero and the deadline is within the period. -/
structure WellFormed (params : RtSchedulingParams) : Prop where
  periodMs_ne : params.periodMs ≠ 0
  deadlineMs_ne : params.deadlineMs ≠ 0
  executionTime_ne : params.worstCaseExecutionTimeUs ≠ 0
  deadlineMs_le : params.deadlineMs ≤ params.periodMs

end RtSchedulingParams

open RtSchedulingParams

variable {params : RtSchedulingParams}

/-- The product is a 32-bit one. -/
theorem executionTimeUs_lt_iff (params : RtSchedulingParams) :
    params.worstCaseExecutionTimeUs < params.periodMs * 1000 ↔
      params.executionTimeUs < params.periodUs % 2 ^ 32 := by
  rw [UInt32.lt_iff_toNat_lt, UInt32.toNat_mul]
  rfl

/-- **What the check accepts.** -/
theorem schedulerRtFeasibilityCheck_iff (params : RtSchedulingParams) (withinBound : Bool) :
    schedulerRtFeasibilityCheck (some params) withinBound = true ↔
      params.WellFormed ∧ params.executionTimeUs < params.periodUs % 2 ^ 32 ∧
        withinBound = true := by
  rw [schedulerRtFeasibilityCheck, ← executionTimeUs_lt_iff]
  split
  · next hzero =>
    refine iff_of_false Bool.false_ne_true fun h => ?_
    rcases hzero with hzero | hzero | hzero
    · exact h.1.periodMs_ne hzero
    · exact h.1.deadlineMs_ne hzero
    · exact h.1.executionTime_ne hzero
  · next hzero =>
    rw [not_or, not_or] at hzero
    split
    · next hlong =>
      exact iff_of_false Bool.false_ne_true fun h => UInt32.not_le.mpr hlong h.1.deadlineMs_le
    · next hlong =>
      have hwell : params.WellFormed :=
        ⟨hzero.1, hzero.2.1, hzero.2.2, UInt32.not_lt.mp hlong⟩
      split
      · next hfull =>
        exact iff_of_false Bool.false_ne_true fun h => UInt32.not_lt.mpr hfull h.2.1
      · next hfull =>
        exact ⟨fun h => ⟨hwell, UInt32.not_le.mp hfull, h⟩, fun h => h.2.2⟩

/-! ## the utilization test -/

/-- A share within the bound of any number of tasks is at most one: this is
Bernoulli's inequality. -/
theorem le_one_of_pow_le_two {share : ℚ} {n : ℕ} (hn : 0 < n) (hshare : 0 ≤ share)
    (h : (1 + share / n) ^ n ≤ 2) : share ≤ 1 := by
  have hpos : (0 : ℚ) < n := Nat.cast_pos.mpr hn
  have hbase : (-2 : ℚ) ≤ share / n := by
    have : 0 ≤ share / n := by positivity
    linarith
  have hbernoulli : 1 + n * (share / n) ≤ (1 + share / n) ^ n := one_add_mul_le_pow hbase n
  rw [mul_div_cancel₀ share hpos.ne'] at hbernoulli
  linarith

/-- In whole microseconds. -/
theorem utilization_le_iff (hperiod : params.periodMs ≠ 0) :
    params.utilization + safetyMargin ≤ 1 ↔
      params.executionTimeUs ≤ 950 * params.periodMs.toNat := by
  have hpos : (0 : ℚ) < params.periodMs.toNat * 1000 := by
    have hnat : 0 < params.periodMs.toNat :=
      Nat.pos_of_ne_zero fun hzero => hperiod (UInt32.toNat_inj.mp hzero)
    positivity
  rw [← le_sub_iff_add_le, RtSchedulingParams.utilization, div_le_iff₀ hpos, safetyMargin,
    executionTimeUs, ← @Nat.cast_le ℚ]
  push_cast
  constructor <;> intro h <;> linarith

/-- The utilization test admits at most 95 percent of the exact period. -/
theorem le_of_exactUtilizationTest {existing : List RtSchedulingParams} {totalTasks : ℕ}
    (hperiod : params.periodMs ≠ 0) (htasks : 0 < totalTasks)
    (h : exactUtilizationTest existing totalTasks params = true) :
    params.executionTimeUs ≤ 950 * params.periodMs.toNat := by
  have hexisting := systemUtilization_nonneg existing
  have hown := utilization_nonneg params
  have hshare : 0 ≤ systemUtilization existing + params.utilization + safetyMargin := by
    unfold safetyMargin
    positivity
  have hle := le_one_of_pow_le_two htasks hshare (of_decide_eq_true h)
  rw [← utilization_le_iff hperiod]
  linarith

/-- Alone, that is all. -/
theorem exactUtilizationTest_alone_iff (hperiod : params.periodMs ≠ 0) :
    exactUtilizationTest [] 1 params = true ↔
      params.executionTimeUs ≤ 950 * params.periodMs.toNat := by
  rw [← utilization_le_iff hperiod, exactUtilizationTest, decide_eq_true_iff, systemUtilization,
    List.map_nil, List.sum_nil, zero_add, Nat.cast_one, div_one, pow_one, ← le_sub_iff_add_le']
  norm_num

namespace SchedulerState

/-- `scheduler_rt_feasibility_check` in a state, with the utilization test over
exact numbers. -/
def feasible (s : SchedulerState) (params : RtSchedulingParams) : Bool :=
  schedulerRtFeasibilityCheck (some params)
    (exactUtilizationTest s.counted (s.processCount.toNat + 1) params)

/-- No process has been created. -/
def Empty (s : SchedulerState) : Prop := s.processCount = 0

variable {s : SchedulerState}

theorem Empty.counted (h : s.Empty) : s.counted = [] := by
  have hnone : s.processes = [] := by
    rw [← List.length_eq_zero_iff, length_processes, h]
    rfl
  rw [SchedulerState.counted, hnone]
  rfl

/-- **What a state accepts** stays within 95 percent of the exact period. -/
theorem feasible_spec (h : s.feasible params = true) :
    params.WellFormed ∧ params.executionTimeUs < params.periodUs % 2 ^ 32 ∧
      params.executionTimeUs ≤ 950 * params.periodMs.toNat := by
  obtain ⟨hwell, hperiod, htest⟩ := (schedulerRtFeasibilityCheck_iff params _).mp h
  exact ⟨hwell, hperiod,
    le_of_exactUtilizationTest hwell.periodMs_ne (Nat.succ_pos s.processCount.toNat) htest⟩

/-- An empty table accepts all of these. -/
theorem Empty.feasible_iff (h : s.Empty) (hwell : params.WellFormed) :
    s.feasible params = true ↔ params.executionTimeUs < params.periodUs % 2 ^ 32 ∧
      params.executionTimeUs ≤ 950 * params.periodMs.toNat := by
  have hcount : s.processCount.toNat + 1 = 1 := by
    rw [h]
    rfl
  rw [SchedulerState.feasible, schedulerRtFeasibilityCheck_iff, h.counted, hcount,
    exactUtilizationTest_alone_iff hwell.periodMs_ne]
  exact and_iff_right hwell

theorem empty_schedulerInit (uptime : UInt64) : (schedulerInit uptime).Empty := rfl

end SchedulerState

/-! ## the deadline -/

namespace RtSchedulingParams

/-- The deadline in microseconds. -/
def deadlineNat (params : RtSchedulingParams) : Nat := params.deadlineMs.toNat * 1000

/-- The task cannot meet its deadline even alone, and passes for one that
fits in its period. -/
structure OverrunsDeadline (params : RtSchedulingParams) : Prop where
  deadlineMs_ne : params.deadlineMs ≠ 0
  overruns : params.deadlineNat < params.executionTimeUs
  fits : params.executionTimeUs ≤ 950 * params.periodMs.toNat
  passes : params.executionTimeUs < params.periodUs % 2 ^ 32

/-- The check finds nothing wrong with the fields of such a task: the deadline
is below the execution time, which is below the period. -/
theorem OverrunsDeadline.wellFormed (h : params.OverrunsDeadline) : params.WellFormed := by
  obtain ⟨hdeadline, hoverruns, hfits, -⟩ := h
  unfold deadlineNat executionTimeUs at *
  refine ⟨?_, hdeadline, ?_, ?_⟩
  · rintro hzero
    rw [hzero] at hfits
    simp at hfits
    omega
  · rintro hzero
    rw [hzero] at hoverruns
    simp at hoverruns
  · rw [UInt32.le_iff_toNat_le]
    omega

end RtSchedulingParams

/-- **Admitted tasks can meet their own deadline**, in every process table,
unless they overrun it by themselves and fit in their period. -/
theorem own_deadline_met_iff (params : RtSchedulingParams) :
    (∀ s : SchedulerState, s.feasible params = true →
        params.worstCaseExecutionTimeUs.toNat ≤ params.deadlineMs.toNat * 1000) ↔
      ¬ params.OverrunsDeadline := by
  constructor
  · intro h hover
    have hempty := SchedulerState.empty_schedulerInit 0
    have haccepted := (hempty.feasible_iff hover.wellFormed).mpr ⟨hover.passes, hover.fits⟩
    exact Nat.not_lt.mpr (h _ haccepted) hover.overruns
  · intro hover s haccepted
    obtain ⟨hwell, hpasses, hfits⟩ := SchedulerState.feasible_spec haccepted
    by_contra hlate
    exact hover ⟨hwell.deadlineMs_ne, Nat.lt_of_not_le hlate, hfits, hpasses⟩

/-- A task of 50 milliseconds every 100, due after one. -/
theorem own_deadline_not_always_met :
    ¬ ∀ (s : SchedulerState) (params : RtSchedulingParams), s.feasible params = true →
      params.worstCaseExecutionTimeUs.toNat ≤ params.deadlineMs.toNat * 1000 := by
  intro h
  have hwell : WellFormed ⟨100, 1, 50000, 0⟩ := ⟨by decide, by decide, by decide, by decide⟩
  have haccepted : (schedulerInit 0).feasible ⟨100, 1, 50000, 0⟩ = true :=
    ((SchedulerState.empty_schedulerInit 0).feasible_iff hwell).mpr (by decide)
  exact absurd (h _ _ haccepted) (by decide)

/-! ## the period -/

namespace RtSchedulingParams

/-- The comparison with the product is one with the exact period: either the
product does not wrap around, or it is still above the execution time. -/
def ExactPeriod (periodMs executionTime : UInt32) : Prop :=
  periodMs.toNat * 1000 < 2 ^ 32 ∨ executionTime.toNat < periodMs.toNat * 1000 % 2 ^ 32

end RtSchedulingParams

/-- The execution-time check is the comparison over the natural numbers. -/
theorem execution_check_iff (hwell : params.WellFormed) :
    (schedulerRtFeasibilityCheck (some params) true = false ↔
        params.worstCaseExecutionTimeUs.toNat ≥ params.periodMs.toNat * 1000) ↔
      ExactPeriod params.periodMs params.worstCaseExecutionTimeUs := by
  have hreject : schedulerRtFeasibilityCheck (some params) true = false ↔
      params.periodUs % 2 ^ 32 ≤ params.executionTimeUs := by
    rw [← Bool.not_eq_true, schedulerRtFeasibilityCheck_iff, and_iff_right hwell,
      and_iff_left rfl, Nat.not_lt]
  have hbound : params.worstCaseExecutionTimeUs.toNat < 2 ^ 32 := UInt32.toNat_lt _
  rw [hreject, ExactPeriod, executionTimeUs, periodUs]
  omega

/-- A longer period keeps the fields in order. -/
theorem RtSchedulingParams.WellFormed.withPeriod (hwell : params.WellFormed) {longerMs : UInt32}
    (hlonger : params.periodMs ≤ longerMs) :
    { params with periodMs := longerMs }.WellFormed := by
  refine ⟨?_, hwell.deadlineMs_ne, hwell.executionTime_ne,
    UInt32.le_trans hwell.deadlineMs_le hlonger⟩
  have hpos : 0 < params.periodMs := UInt32.pos_iff_ne_zero.mpr hwell.periodMs_ne
  exact UInt32.pos_iff_ne_zero.mp (UInt32.lt_of_lt_of_le hpos hlonger)

/-- A task that passes with a period passes with a longer one whose product is
no worse than the exact period. -/
theorem passes_of_exactPeriod {longerMs : UInt32} (hlonger : params.periodMs ≤ longerMs)
    (hpasses : params.executionTimeUs < params.periodUs % 2 ^ 32)
    (hfits : params.executionTimeUs ≤ 950 * params.periodMs.toNat)
    (hexact : ExactPeriod longerMs params.worstCaseExecutionTimeUs) :
    params.executionTimeUs < longerMs.toNat * 1000 % 2 ^ 32 ∧
      params.executionTimeUs ≤ 950 * longerMs.toNat := by
  have hle : params.periodMs.toNat ≤ longerMs.toNat := UInt32.le_iff_toNat_le.mp hlonger
  have hmod : params.periodUs % 2 ^ 32 ≤ params.periodMs.toNat * 1000 := Nat.mod_le _ _
  unfold ExactPeriod at hexact
  unfold executionTimeUs at *
  omega

/-- The admission of a task to an empty table is exact, and goes on when its
period is raised. -/
structure ExactAdmission (params : RtSchedulingParams) (longerMs : UInt32) : Prop where
  exact : schedulerRtFeasibilityCheck (some params) true = false ↔
    params.worstCaseExecutionTimeUs.toNat ≥ params.periodMs.toNat * 1000
  monotone : ∀ s : SchedulerState, s.Empty → s.feasible params = true →
    s.feasible { params with periodMs := longerMs } = true

/-- **The execution-time check is exact** for a period, and acceptance survives
raising it, exactly if the products of the two periods do not wrap around to
below the execution time. -/
theorem execution_check_exact_iff (params : RtSchedulingParams) (longerMs : UInt32)
    (hwell : params.WellFormed) (hlonger : params.periodMs ≤ longerMs) :
    ExactAdmission params longerMs ↔
      ExactPeriod params.periodMs params.worstCaseExecutionTimeUs ∧
        (params.executionTimeUs < params.periodUs % 2 ^ 32 →
          params.executionTimeUs ≤ 950 * params.periodMs.toNat →
          ExactPeriod longerMs params.worstCaseExecutionTimeUs) := by
  have hmonotone : (∀ s : SchedulerState, s.Empty → s.feasible params = true →
      s.feasible { params with periodMs := longerMs } = true) ↔
        (params.executionTimeUs < params.periodUs % 2 ^ 32 →
          params.executionTimeUs ≤ 950 * params.periodMs.toNat →
          ExactPeriod longerMs params.worstCaseExecutionTimeUs) := by
    constructor
    · intro h hpasses hfits
      have hempty := SchedulerState.empty_schedulerInit 0
      have haccepted := h _ hempty ((hempty.feasible_iff hwell).mpr ⟨hpasses, hfits⟩)
      exact .inr (SchedulerState.feasible_spec haccepted).2.1
    · intro h s hempty haccepted
      obtain ⟨hpasses, hfits⟩ := (hempty.feasible_iff hwell).mp haccepted
      have hlong := passes_of_exactPeriod hlonger hpasses hfits (h hpasses hfits)
      exact (hempty.feasible_iff (hwell.withPeriod hlonger)).mpr hlong
  rw [← execution_check_iff hwell, ← hmonotone]
  exact ⟨fun h => ⟨h.exact, h.monotone⟩, fun h => ⟨h.1, h.2⟩⟩

/-- Ten seconds of execution in a period of 20 seconds, raised to 2^29
milliseconds: that product wraps around to 0. -/
theorem execution_check_exact_iff_seconds :
    ExactAdmission ⟨20000, 20000, 10000000, 0⟩ 536870912 ↔
      ExactPeriod 20000 10000000 ∧ (10000000 < 20000 * 1000 % 2 ^ 32 →
        10000000 ≤ 950 * 20000 → ExactPeriod 536870912 10000000) :=
  execution_check_exact_iff ⟨20000, 20000, 10000000, 0⟩ 536870912
    ⟨by decide, by decide, by decide, by decide⟩ (by decide)

/-- Ten seconds of execution are too long for a period of 2^29 milliseconds. -/
theorem execution_check_not_always_exact :
    ¬ ∀ (params : RtSchedulingParams) (longerMs : UInt32), params.WellFormed →
      params.periodMs ≤ longerMs → ExactAdmission params longerMs := by
  intro h
  have hwell : WellFormed ⟨536870912, 20000, 10000000, 0⟩ :=
    ⟨by decide, by decide, by decide, by decide⟩
  have hexact := (h _ 536870912 hwell (by decide)).exact
  exact absurd (hexact.mp (by decide)) (by decide)

end AutoMlos
