import AutoMlos.Scheduler
import Mathlib.Analysis.SpecialFunctions.Pow.Real

/-!
# AutoMlos.Scheduler.Utilization

The utilization test of `scheduler_rt_feasibility_check` over exact numbers.

The source compares a sum of quotients with `n * (2^(1/n) - 1) - 0.05` in
single precision.  Over the reals the comparison is one of rationals, since
`2^(1/n)` is the number whose `n`-th power is 2; `exactUtilizationTest_iff`
is the connection.
-/

namespace AutoMlos

/-- `task_utilization`: execution time over period. -/
def RtSchedulingParams.utilization (params : RtSchedulingParams) : ℚ :=
  params.worstCaseExecutionTimeUs.toNat / (params.periodMs.toNat * 1000)

/-- `system_utilization`. -/
def systemUtilization (existing : List RtSchedulingParams) : ℚ :=
  (existing.map (·.utilization)).sum

/-- `safety_margin`. -/
def safetyMargin : ℚ := 1 / 20

/-- The utilization with the margin is within the bound, in the form that needs
no root. -/
def exactUtilizationTest (existing : List RtSchedulingParams) (totalTasks : Nat)
    (params : RtSchedulingParams) : Bool :=
  let share := systemUtilization existing + params.utilization + safetyMargin
  (1 + share / (totalTasks : ℚ)) ^ totalTasks ≤ 2

/-- `rms_bound`. -/
noncomputable def rmsBound (totalTasks : ℕ) : ℝ :=
  totalTasks * ((2 : ℝ) ^ (1 / (totalTasks : ℝ)) - 1)

theorem utilization_nonneg (params : RtSchedulingParams) : 0 ≤ params.utilization := by
  unfold RtSchedulingParams.utilization
  positivity

theorem systemUtilization_nonneg (existing : List RtSchedulingParams) :
    0 ≤ systemUtilization existing := by
  refine List.sum_nonneg fun share hmem => ?_
  obtain ⟨params, -, rfl⟩ := List.mem_map.mp hmem
  exact utilization_nonneg params

/-- A share is within the rate-monotonic bound if and only if the power of one
plus the share of a task is at most 2. -/
theorem le_rmsBound_iff {totalTasks : ℕ} (h : 0 < totalTasks) {share : ℝ} (hshare : 0 ≤ share) :
    share ≤ rmsBound totalTasks ↔ (1 + share / totalTasks) ^ totalTasks ≤ 2 := by
  have hpos : (0 : ℝ) < totalTasks := Nat.cast_pos.mpr h
  have hbase : 0 ≤ 1 + share / totalTasks := by positivity
  have hroot : (2 : ℝ) ^ (1 / (totalTasks : ℝ)) = (2 : ℝ) ^ ((totalTasks : ℝ)⁻¹) := by
    rw [one_div]
  calc share ≤ rmsBound totalTasks
      ↔ share / totalTasks ≤ (2 : ℝ) ^ (1 / (totalTasks : ℝ)) - 1 := by
        rw [rmsBound, div_le_iff₀' hpos]
    _ ↔ 1 + share / totalTasks ≤ (2 : ℝ) ^ ((totalTasks : ℝ)⁻¹) := by
        rw [hroot, le_sub_iff_add_le, add_comm]
    _ ↔ (1 + share / totalTasks) ^ totalTasks ≤ 2 := by
        rw [Real.le_rpow_inv_iff_of_pos hbase (by norm_num) hpos, Real.rpow_natCast]

/-- **The exact test is the comparison of the source**, read over the reals. -/
theorem exactUtilizationTest_iff (existing : List RtSchedulingParams) {totalTasks : ℕ}
    (h : 0 < totalTasks) (params : RtSchedulingParams) :
    exactUtilizationTest existing totalTasks params = true ↔
      ((systemUtilization existing + params.utilization : ℚ) : ℝ) ≤
        rmsBound totalTasks - (safetyMargin : ℝ) := by
  have hshare : (0 : ℚ) ≤ systemUtilization existing + params.utilization + safetyMargin := by
    have := systemUtilization_nonneg existing
    have := utilization_nonneg params
    unfold safetyMargin
    positivity
  rw [le_sub_iff_add_le, ← Rat.cast_add, le_rmsBound_iff h (Rat.cast_nonneg.mpr hshare),
    exactUtilizationTest, decide_eq_true_iff]
  exact_mod_cast Iff.rfl

end AutoMlos
