import AutoMlos.SystemMonitor.FalseAlarm

/-!
# AutoMlos.SystemMonitor.Reporting

Which self-test the secondary health flag reports.

The self-health check returns `SYSTEM_ERROR_NONE` when its test passes, and also
when no test is due.  So an update without a test reports a healthy path,
whatever the last test has found.
-/

namespace AutoMlos

open Lib

/-- The result of the check: an error exactly if a test is executed and fails. -/
theorem performSelfHealthCheck_result (p : MonitorPlatform) (r : MonitorReadings)
    (s : SystemMonitor) :
    (performSelfHealthCheck p r s).1 = .none ↔ s.selfOutcome p r ≠ some true := by
  constructor
  · intro hresult hfailed
    by_cases hearly : systemMonitorGetSystemTimeUs p r.self s - s.lastSelfHealthCheckTime <
        selfHealthCheckInterval
    · rw [SystemMonitor.selfOutcome, if_pos hearly] at hfailed
      contradiction
    · rw [SystemMonitor.selfOutcome, if_neg hearly] at hfailed
      have htest : (selfTest p r s).1 = false := by simpa using hfailed
      rw [← selfTest_fst_of_time p r s (systemMonitorGetSystemTimeUs p r.self s)] at htest
      simp only [performSelfHealthCheck, if_neg hearly, htest, Bool.false_eq_true, if_false]
        at hresult
      contradiction
  · exact fun hpass => (performSelfHealthCheck_of_not_fail p r s hpass).1

/-- The monitor, and whether the most recently executed self-test passed. -/
structure ReportingRun where
  monitor : SystemMonitor
  lastTest : Option Bool

namespace ReportingRun

/-- The start of a run, in which no self-test has been executed. -/
def start (monitor : SystemMonitor) : ReportingRun := ⟨monitor, none⟩

/-- Whether the self-test of an update is executed, and whether it passes. -/
def test (p : MonitorPlatform) (run : ReportingRun) (u : HealthUpdate) : Option Bool :=
  ((performCrossMonitoring p u.readings (run.monitor.found u)).2.selfOutcome p u.readings).map
    Bool.not

/-- One health update. -/
def step (p : MonitorPlatform) (run : ReportingRun) (u : HealthUpdate) :
    MonitorError × ReportingRun :=
  let (result, monitor) := run.monitor.step p u
  (result, { monitor, lastTest := (run.test p u).or run.lastTest })

/-- The secondary flag is the outcome of the most recently executed test. -/
def Reports (run : ReportingRun) : Prop :=
  ∀ passed, run.lastTest = some passed → run.monitor.health.secondaryMonitorHealthy = passed

instance (run : ReportingRun) : Decidable run.Reports :=
  decidable_of_iff (∀ passed ∈ run.lastTest, run.monitor.health.secondaryMonitorHealthy = passed)
    Iff.rfl

/-- A self-test is due in the update, or the last one has not failed. -/
def DueOrPassed (p : MonitorPlatform) (run : ReportingRun) (u : HealthUpdate) : Prop :=
  (performCrossMonitoring p u.readings (run.monitor.found u)).2.SelfDue p u.readings ∨
    run.lastTest ≠ some false

variable {p : MonitorPlatform} {run : ReportingRun} {u : HealthUpdate}

/-- An update reports a failure exactly if its own test fails. -/
theorem secondaryMonitorHealthy_step :
    (run.step p u).2.monitor.health.secondaryMonitorHealthy =
      decide (run.test p u ≠ some false) := by
  obtain ⟨-, -, hsecondary, -⟩ :=
    systemMonitorUpdateHealthRedundant_health p u.readings (run.monitor.found u)
  have hresult := performSelfHealthCheck_result p u.readings
    (performCrossMonitoring p u.readings (run.monitor.found u)).2
  refine hsecondary.trans (decide_eq_decide.mpr (hresult.trans ?_))
  rw [test]
  cases (performCrossMonitoring p u.readings (run.monitor.found u)).2.selfOutcome p u.readings with
  | none => simp
  | some failed => cases failed <;> decide

/-- A test is executed exactly if it is due. -/
theorem isSome_test_iff : (run.test p u).isSome ↔
    (performCrossMonitoring p u.readings (run.monitor.found u)).2.SelfDue p u.readings := by
  rw [test, Option.isSome_map, SystemMonitor.selfOutcome, SystemMonitor.SelfDue]
  split
  · next hearly => exact iff_of_false (by simp) (UInt64.not_le.mpr hearly)
  · next hdue => exact iff_of_true rfl (UInt64.not_lt.mp hdue)

/-- **One update** reports the latest self-test exactly if one is due or the
last one has not failed. -/
theorem reports_step_iff : (run.step p u).2.Reports ↔ run.DueOrPassed p u := by
  rw [Reports, secondaryMonitorHealthy_step, DueOrPassed, ← isSome_test_iff]
  have hlast : (run.step p u).2.lastTest = (run.test p u).or run.lastTest := rfl
  rw [hlast]
  cases run.test p u with
  | none =>
      rw [Option.none_or]
      cases run.lastTest with
      | none => simp
      | some passed => cases passed <;> simp
  | some passed => cases passed <;> simp

end ReportingRun

/-- **The secondary flag reports the latest self-test** after every update of a
run if and only if no update without a test follows one that failed. -/
theorem secondary_flag_reports_iff (p : MonitorPlatform) (s : SystemMonitor)
    (updates : List HealthUpdate) :
    Always (total (ReportingRun.step p)) (fun _ _ _ run => run.Reports) (.start s) updates ↔
      Always (total (ReportingRun.step p)) (fun run u _ _ => run.DueOrPassed p u) (.start s)
        updates := by
  have hstep (run : ReportingRun) (u : HealthUpdate) (_ : True) :
      ((run.step p u).2.Reports ↔ run.DueOrPassed p u) ∧ ((run.step p u).2.Reports → True) :=
    ⟨ReportingRun.reports_step_iff, fun _ => trivial⟩
  exact always_total_iff_always hstep trivial updates

/-- An update at this counter whose self-test would take no time. -/
def stalledUpdate (counter : UInt64) : HealthUpdate where
  lastHeartbeatTime := counter
  watchdogs := Vector.replicate 2 ⟨true, 1000, counter, 0, false⟩
  readings := ⟨counter, counter, counter, counter, counter, counter⟩

/-- A self-test that fails after a second, and an update before the next one
is due. -/
theorem secondary_flag_not_always_reports :
    ¬ ∀ (p : MonitorPlatform) (primary backup : MonitorError × UInt32) (s : SystemMonitor)
      (updates : List HealthUpdate),
      (systemMonitorServiceInit primary backup s).1 = .none → InTimeOrder p updates →
      Always (total (ReportingRun.step p)) (fun _ _ _ run => run.Reports)
        (.start (systemMonitorServiceInit primary backup s).2) updates := by
  intro h
  have hrun := h oneMegahertz (.none, 1) (.none, 2) .zero
    [stalledUpdate 1000000, stalledUpdate 1100000] (by decide) (by decide +kernel)
  revert hrun
  decide +kernel

end AutoMlos
