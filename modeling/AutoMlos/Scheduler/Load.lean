import AutoMlos.Lib.RateMonotonic
import AutoMlos.Scheduler.Independence

/-!
# AutoMlos.Scheduler.Load

What the admission of processes promises about all of them.

The test of `scheduler_rt_feasibility_check` is made for one process.  Over a
run of creations it bounds the load of all that were admitted: whatever was
rejected in between, and whatever slots were taken over, these are within the
rate-monotonic bound for their own number, less the safety margin, and need at
most 95 percent of the processor (`admitted_tasks_within_bound`).  The test
compares with the bound for the number of all processes, which is smaller, and
counts the parameters left by rejected calls as well: both are on the safe side.
-/

namespace AutoMlos

open Lib RtSchedulingParams SchedulerState

/-- The parameters a call was admitted with. -/
def admittedTask (call : CreateCall) (reply : SystemError × Option UInt16) :
    List RtSchedulingParams :=
  if created reply then call.rtParams.toList else []

/-- The parameters that a run of creations admits, in order. -/
def admittedTasks (s : SchedulerState) : List CreateCall → List RtSchedulingParams
  | [] => []
  | call :: calls =>
      admittedTask call (processCreateExact s call).1 ++
        admittedTasks (processCreateExact s call).2 calls

/-- The load of tasks with the margin is within the bound for their number. -/
def LoadBounded (tasks : List RtSchedulingParams) : Prop :=
  tasks ≠ [] → ((systemUtilization tasks + safetyMargin : ℚ) : ℝ) ≤ rmsBound tasks.length

/-! ## one call -/

section Call

variable {s : SchedulerState} {tasks existing : List RtSchedulingParams} {call : CreateCall}

theorem systemUtilization_append (tasks existing : List RtSchedulingParams) :
    systemUtilization (tasks ++ existing) =
      systemUtilization tasks + systemUtilization existing := by
  rw [systemUtilization, List.map_append, List.sum_append, systemUtilization, systemUtilization]

/-- The tasks that a run has admitted are counted by the scheduler. -/
structure Counts (s : SchedulerState) (tasks : List RtSchedulingParams) : Prop where
  load_le : systemUtilization tasks ≤ systemUtilization s.counted
  length_le : tasks.length ≤ s.processCount.toNat
  bounded : LoadBounded tasks

theorem counts_schedulerInit (uptime : UInt64) : Counts (schedulerInit uptime) [] where
  load_le := systemUtilization_nonneg _
  length_le := Nat.zero_le _
  bounded h := absurd rfl h

/-- A test that is passed bounds the load of what is counted and the new task. -/
theorem Counts.loadBounded (h : Counts s tasks) {params : RtSchedulingParams}
    (hfeasible : s.feasible params = true) : LoadBounded (tasks ++ [params]) := by
  have htest := ((schedulerRtFeasibilityCheck_iff params _).mp hfeasible).2.2
  have hpassed : WithinBound 2 (s.processCount.toNat + 1)
      ((systemUtilization s.counted + params.utilization + safetyMargin : ℚ) : ℝ) := by
    have hpow := of_decide_eq_true htest
    rw [WithinBound]
    exact_mod_cast hpow
  have hmargin : (0 : ℚ) ≤ safetyMargin := by
    rw [safetyMargin]
    norm_num
  have hone : systemUtilization [params] = params.utilization := List.sum_singleton
  have hnonneg := systemUtilization_nonneg (tasks ++ [params])
  have hload := h.load_le
  have hshare : (0 : ℝ) ≤ ((systemUtilization (tasks ++ [params]) + safetyMargin : ℚ) : ℝ) :=
    Rat.cast_nonneg.mpr (add_nonneg hnonneg hmargin)
  intro hne
  refine (le_rmsBound_iff (List.length_pos_iff.mpr hne) hshare).mpr
    (hpassed.mono hshare ?_ (List.length_pos_iff.mpr hne) ?_)
  · refine Rat.cast_le.mpr ?_
    rw [systemUtilization_append, hone]
    linarith
  · rw [List.length_append, List.length_singleton]
    exact Nat.succ_le_succ h.length_le

/-- **One call** keeps what the scheduler counts. -/
theorem Counts.step (h : Counts s tasks) (call : CreateCall) :
    Counts (processCreateExact s call).2
      (tasks ++ admittedTask call (processCreateExact s call).1) := by
  cases hreply : created (processCreateExact s call).1 with
  | false =>
      have hprocesses := congrArg List.length (not_created_spec hreply).2
      rw [length_processes, length_processes] at hprocesses
      have hnone : admittedTask call (processCreateExact s call).1 = [] := if_neg (by simp [hreply])
      rw [hnone, List.append_nil]
      refine ⟨?_, ?_, h.bounded⟩
      · rw [counted_of_not_created hreply]
        exact h.load_le
      · rw [hprocesses]
        exact h.length_le
  | true =>
      obtain ⟨slot, slots, hcall⟩ := exists_admissible hreply
      have hroom : s.freeSlots ≠ [] := by simp [hcall.freeSlots]
      have hcount : (processCreateExact s call).2.processCount.toNat =
          s.processCount.toNat + 1 := by
        rw [hcall.spec.2.1, toNat_processCount_succ hroom]
      have hlength := h.length_le
      have htask : admittedTask call (processCreateExact s call).1 = call.rtParams.toList :=
        if_pos hreply
      rw [htask]
      cases hparams : call.rtParams with
      | none =>
          rw [Option.toList_none, List.append_nil]
          refine ⟨?_, by omega, h.bounded⟩
          rw [counted_of_created hcall, systemUtilization_append]
          exact h.load_le.trans (le_add_of_nonneg_right (systemUtilization_nonneg _))
      | some params =>
          have hfeasible : s.feasible params = true := by
            have hchecked := hcall.feasible
            rw [withinBound, hparams] at hchecked
            exact hchecked
          rw [Option.toList_some]
          refine ⟨?_, ?_, h.loadBounded hfeasible⟩
          · rw [counted_of_some hparams hreply, systemUtilization_append, systemUtilization_append]
            exact add_le_add_left h.load_le _
          · rw [List.length_append, List.length_singleton]
            omega

end Call

/-- **A run of creations** keeps it. -/
theorem Counts.run {s : SchedulerState} {tasks : List RtSchedulingParams} (h : Counts s tasks)
    (calls : List CreateCall) : LoadBounded (tasks ++ admittedTasks s calls) := by
  induction calls generalizing s tasks with
  | nil =>
      rw [admittedTasks, List.append_nil]
      exact h.bounded
  | cons call calls ih =>
      rw [admittedTasks, ← List.append_assoc]
      exact ih (h.step call)

/-- **What is admitted is within the bound**: after every run of creations from
`scheduler_init`, with any rejected calls, the load of the tasks that were
admitted is at most the rate-monotonic bound for their number less the safety
margin, and at most 95 percent. -/
theorem admitted_tasks_within_bound (uptime : UInt64) (calls : List CreateCall) :
    let tasks := admittedTasks (schedulerInit uptime) calls
    (tasks ≠ [] →
      ((systemUtilization tasks : ℚ) : ℝ) ≤ rmsBound tasks.length - (safetyMargin : ℝ)) ∧
      systemUtilization tasks ≤ 19 / 20 := by
  have hbounded := (counts_schedulerInit uptime).run calls
  rw [List.nil_append] at hbounded
  generalize admittedTasks (schedulerInit uptime) calls = tasks at hbounded ⊢
  have hmargin : (0 : ℚ) ≤ safetyMargin := by
    rw [safetyMargin]
    norm_num
  have hshare : (0 : ℚ) ≤ systemUtilization tasks + safetyMargin :=
    add_nonneg (systemUtilization_nonneg tasks) hmargin
  have hnonneg : (0 : ℝ) ≤ ((systemUtilization tasks + safetyMargin : ℚ) : ℝ) :=
    Rat.cast_nonneg.mpr hshare
  constructor
  · intro hne
    have hwithin := hbounded hne
    rw [Rat.cast_add] at hwithin
    linarith
  · by_cases hne : tasks = []
    · rw [hne, systemUtilization, List.map_nil, List.sum_nil]
      norm_num
    · have hpos : 0 < tasks.length := List.length_pos_iff.mpr hne
      have hwithin : WithinBound 2 tasks.length _ :=
        (le_rmsBound_iff hpos hnonneg).mp (hbounded hne)
      have hone := hwithin.one_add_le hpos hnonneg
      have hrational : 1 + (systemUtilization tasks + safetyMargin) ≤ 2 := by exact_mod_cast hone
      rw [safetyMargin] at hrational
      linarith

end AutoMlos
