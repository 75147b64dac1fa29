import AutoMlos.SystemMonitor.Degradation

/-!
# AutoMlos.SystemMonitor.MissedWatchdog

What becomes of a watchdog that nobody pets.

`perform_cross_monitoring` counts an error of the watchdog check as a failure,
but the check reports none, whatever it finds.  So the check is right exactly
where no armed watchdog is overdue, and a run of rounds ends unhealthy exactly
if the comparisons of the two health flags alone make it so.
-/

namespace AutoMlos

open Lib

/-- An armed watchdog has not been petted for longer than its timeout. -/
def RedundantWatchdog.Overdue (w : RedundantWatchdog) (currentTime : UInt64) : Prop :=
  w.armed = true ∧ w.lastPetTime.toNat + w.timeoutMs.toNat * 1000 < currentTime.toNat

instance (w : RedundantWatchdog) (currentTime : UInt64) : Decidable (w.Overdue currentTime) :=
  inferInstanceAs (Decidable (_ ∧ _))

/-- Some armed watchdog is overdue. -/
def SystemMonitor.HasOverdue (s : SystemMonitor) (currentTime : UInt64) : Prop :=
  ∃ i : Fin 2, (s.watchdogs.get i).Overdue currentTime

instance (s : SystemMonitor) (currentTime : UInt64) : Decidable (s.HasOverdue currentTime) :=
  inferInstanceAs (Decidable (∃ _, _))

/-- The watchdog check reports an error exactly if an armed watchdog is
overdue. -/
def ReportsOverdue (currentTime : UInt64) (s : SystemMonitor) : Prop :=
  (systemMonitorWatchdogCheckConsistency currentTime s).1 ≠ .none ↔ s.HasOverdue currentTime

theorem reportsOverdue_iff (currentTime : UInt64) (s : SystemMonitor) :
    ReportsOverdue currentTime s ↔ ¬ s.HasOverdue currentTime := by
  have hnone : ¬ (systemMonitorWatchdogCheckConsistency currentTime s).1 ≠ .none :=
    not_not_intro rfl
  rw [ReportsOverdue, iff_false_left hnone]

/-! ## rounds of cross-monitoring -/

/-- A call of `perform_cross_monitoring`, with what it finds: the two health
flags, the watchdogs, and the counters that it reads. -/
structure CrossRound where
  primaryMonitorHealthy : Bool
  secondaryMonitorHealthy : Bool
  watchdogs : Vector RedundantWatchdog 2
  readings : MonitorReadings

/-- The monitor that a round finds. -/
def SystemMonitor.atRound (s : SystemMonitor) (round : CrossRound) : SystemMonitor :=
  { s with
    health := { s.health with
      primaryMonitorHealthy := round.primaryMonitorHealthy
      secondaryMonitorHealthy := round.secondaryMonitorHealthy }
    watchdogs := round.watchdogs }

/-- The monitor, the number of rounds that were executed, the fail count that
their comparisons make, and whether an armed watchdog was overdue in each. -/
structure MissedRun where
  monitor : SystemMonitor
  executed : Nat
  streak : Nat
  overdue : Bool

namespace MissedRun

/-- The start of a run. -/
def start (monitor : SystemMonitor) : MissedRun where
  monitor
  executed := 0
  streak := monitor.crossMonitorFailCount.toNat
  overdue := true

/-- One round. -/
def step (p : MonitorPlatform) (run : MissedRun) (round : CrossRound) :
    MonitorError × MissedRun :=
  let found := run.monitor.atRound round
  let outcome := found.crossOutcome p round.readings
  let checkTime := systemMonitorGetSystemTimeUs p round.readings.watchdog found
  let (result, monitor) := performCrossMonitoring p round.readings found
  (result,
    { monitor
      executed := if outcome.isSome then run.executed + 1 else run.executed
      streak := streakAfter run.streak outcome
      overdue := run.overdue && (outcome.isNone || found.HasOverdue checkTime) })

/-- The fail count is the streak in eight bits, and an executed round sets the
flag by it. -/
structure Follows (run : MissedRun) : Prop where
  count : run.monitor.crossMonitorFailCount.toNat = run.streak % 256
  healthy : 0 < run.executed → run.monitor.crossMonitorHealthy =
    decide (run.monitor.crossMonitorFailCount < monitorDegradationThreshold)

theorem follows_start (s : SystemMonitor) : (start s).Follows :=
  ⟨(Nat.mod_eq_of_lt s.crossMonitorFailCount.toNat_lt).symm, fun h => absurd h (Nat.lt_irrefl 0)⟩

/-- One round, executed or not. -/
theorem Follows.step {run : MissedRun} (h : run.Follows) (p : MonitorPlatform)
    (round : CrossRound) : (run.step p round).2.Follows := by
  have hrecounts := recounts_performCrossMonitoring p round.readings (run.monitor.atRound round)
  have hmonitor : (run.step p round).2.monitor =
      (performCrossMonitoring p round.readings (run.monitor.atRound round)).2 := rfl
  have hexecuted : (run.step p round).2.executed =
      if ((run.monitor.atRound round).crossOutcome p round.readings).isSome then run.executed + 1
      else run.executed := rfl
  rw [← hmonitor] at hrecounts
  refine ⟨hrecounts.toNat_eq_mod h.count, fun hpos => ?_⟩
  cases houtcome : (run.monitor.atRound round).crossOutcome p round.readings with
  | none =>
      obtain ⟨hcount, hhealthy⟩ := hrecounts.of_none houtcome
      rw [hcount, hhealthy]
      rw [houtcome] at hexecuted
      rw [hexecuted] at hpos
      exact h.healthy hpos
  | some failed => exact (hrecounts.of_some failed houtcome).2

/-- After an executed round the flag follows the streak. -/
theorem Follows.healthy_eq_false_iff {run : MissedRun} (h : run.Follows)
    (hexecuted : 0 < run.executed) :
    run.monitor.crossMonitorHealthy = false ↔
      monitorDegradationThreshold.toNat ≤ run.streak % 256 := by
  rw [h.healthy hexecuted, decide_eq_false_iff_not, UInt8.lt_iff_toNat_lt, h.count, Nat.not_lt]

end MissedRun

/-- The watchdog check is right exactly where no armed watchdog is overdue.  And
when one is in every round of a run that executes at least as many rounds as
the threshold, cross-monitoring ends unhealthy exactly if the comparisons of
the flags have counted up to the threshold, in eight bits. -/
theorem missed_watchdog_iff (p : MonitorPlatform) (s : SystemMonitor) (currentTime : UInt64)
    (rounds : List CrossRound) :
    (ReportsOverdue currentTime s ↔ ¬ s.HasOverdue currentTime) ∧
    let run := (mealy (MissedRun.step p) (MissedRun.start s) rounds).2
    run.overdue = true → monitorDegradationThreshold.toNat ≤ run.executed →
      (run.monitor.crossMonitorHealthy = false ↔
        monitorDegradationThreshold.toNat ≤ run.streak % 256) := by
  refine ⟨reportsOverdue_iff currentTime s, ?_⟩
  intro run _ hexecuted
  have hstep (run : MissedRun) (round : CrossRound) (h : run.Follows) :
      (run.step p round).2.Follows := h.step p round
  have hfollows : run.Follows := mealy_invariant hstep (MissedRun.follows_start s) rounds
  exact hfollows.healthy_eq_false_iff (Nat.lt_of_lt_of_le (by decide) hexecuted)

/-- A round at this time, with equal flags and a watchdog that was armed at 0
and not petted since. -/
def missedRound (time : UInt64) : CrossRound where
  primaryMonitorHealthy := true
  secondaryMonitorHealthy := true
  watchdogs := Vector.replicate 2 ⟨true, 1000, 0, 0, false⟩
  readings := ⟨time, time, time, time, time, time⟩

theorem missed_watchdog_three_rounds :
    let run := (mealy (MissedRun.step oneMegahertz) (MissedRun.start monitorReady)
      [missedRound 2000000, missedRound 2100000, missedRound 2200000]).2
    run.monitor.crossMonitorHealthy = false ↔
      monitorDegradationThreshold.toNat ≤ run.streak % 256 :=
  (missed_watchdog_iff oneMegahertz monitorReady 0 _).2 (by decide) (by decide)

/-- Three rounds with a watchdog a second overdue end healthy. -/
theorem missed_watchdog_unnoticed :
    ¬ ((∀ currentTime s, ReportsOverdue currentTime s) ∧
      ∀ (p : MonitorPlatform) (s : SystemMonitor) (rounds : List CrossRound),
        let run := (mealy (MissedRun.step p) (MissedRun.start s) rounds).2
        run.overdue = true → monitorDegradationThreshold.toNat ≤ run.executed →
          run.monitor.crossMonitorHealthy = false) := by
  rintro ⟨-, h⟩
  have hunhealthy := h oneMegahertz monitorReady
    [missedRound 2000000, missedRound 2100000, missedRound 2200000] (by decide) (by decide)
  exact absurd hunhealthy (by decide)

end AutoMlos
