import AutoMlos.SystemMonitor

/-!
# AutoMlos.SystemMonitor.Degradation

When a check that fails again and again is reported as unhealthy.

A streak is the number of executions of a check that have failed since its
last success.  The fail count of a check is its streak as long as that fits in
eight bits (`Counted`), which one execution keeps (`Counted.step`); so the
health flags follow the streaks in every run in which none gets to 256.
-/

namespace AutoMlos

open Lib

/-! ## a check and its streak -/

/-- The streak of a check after an update, in which it has not been executed
or has and may have failed. -/
def streakAfter (streak : Nat) : Option Bool → Nat
  | none => streak
  | some true => streak + 1
  | some false => 0

/-- A check that fails three times or more in a row is not healthy. -/
def Degraded (healthy : Bool) (streak : Nat) : Prop :=
  monitorDegradationThreshold.toNat ≤ streak → healthy = false

instance (healthy : Bool) (streak : Nat) : Decidable (Degraded healthy streak) :=
  inferInstanceAs (Decidable (_ → _))

/-- What an update does to the fail count and the flag of a check. -/
structure Recounts (outcome : Option Bool) (count : UInt8) (healthy : Bool) (count' : UInt8)
    (healthy' : Bool) : Prop where
  of_none : outcome = none → count' = count ∧ healthy' = healthy
  of_some : ∀ failed, outcome = some failed →
    count' = (if failed then count + 1 else 0) ∧
      healthy' = decide (count' < monitorDegradationThreshold)

/-- A fail count that is the streak in eight bits goes on being that. -/
theorem Recounts.toNat_eq_mod {outcome : Option Bool} {count count' : UInt8}
    {healthy healthy' : Bool} {streak : Nat}
    (hupdate : Recounts outcome count healthy count' healthy')
    (h : count.toNat = streak % 256) : count'.toNat = streakAfter streak outcome % 256 := by
  cases outcome with
  | none =>
      rw [(hupdate.of_none rfl).1]
      exact h
  | some failed =>
      rw [(hupdate.of_some failed rfl).1]
      cases failed with
      | false => rfl
      | true =>
          rw [if_pos rfl, UInt8.toNat_add, h]
          exact Nat.mod_add_mod _ _ _

/-- A check that does nothing before its time, and else counts its failures. -/
theorem recounts_of_interval {early : Prop} [Decidable early] {failed : Bool} {count count' : UInt8}
    {healthy healthy' : Bool} (hearly : early → count' = count ∧ healthy' = healthy)
    (hdue : ¬ early → count' = (if failed then count + 1 else 0) ∧
      healthy' = decide (count' < monitorDegradationThreshold)) :
    Recounts (if early then none else some failed) count healthy count' healthy' := by
  split
  · next h => exact ⟨fun _ => hearly h, by simp⟩
  · next h =>
    refine ⟨by simp, fun failed' hfailed => ?_⟩
    rw [← Option.some.inj hfailed]
    exact hdue h

/-- The fail count is the streak, and the flag follows it. -/
structure Counted (count : UInt8) (healthy : Bool) (streak : Nat) : Prop where
  streak_lt : streak < 256
  count_eq : count.toNat = streak
  degraded : Degraded healthy streak

/-- A check that has counted no failure has no streak. -/
theorem counted_zero {count : UInt8} (h : count = 0) (healthy : Bool) : Counted count healthy 0 :=
  ⟨Nat.succ_pos 255, by rw [h]; rfl, fun hlong => absurd hlong (Nat.not_succ_le_zero 2)⟩

/-- The flag of an executed check follows its fail count. -/
theorem degraded_iff_of_count {count : UInt8} {healthy : Bool}
    (h : healthy = decide (count < monitorDegradationThreshold)) (streak : Nat) :
    Degraded healthy streak ↔ (3 ≤ streak → 3 ≤ count.toNat) := by
  have hthreshold : monitorDegradationThreshold.toNat = 3 := rfl
  rw [Degraded, h, hthreshold, decide_eq_false_iff_not, UInt8.lt_iff_toNat_lt, hthreshold,
    Nat.not_lt]

/-- **One update**: the flag follows the streak exactly if the streak still
fits in the fail count, and then the count stays right. -/
theorem Counted.step {outcome : Option Bool} {count count' : UInt8} {healthy healthy' : Bool}
    {streak : Nat} (h : Counted count healthy streak)
    (hupdate : Recounts outcome count healthy count' healthy') :
    (Degraded healthy' (streakAfter streak outcome) ↔ streakAfter streak outcome < 256) ∧
      (Degraded healthy' (streakAfter streak outcome) →
        Counted count' healthy' (streakAfter streak outcome)) := by
  cases outcome with
  | none =>
      obtain ⟨rfl, rfl⟩ := hupdate.of_none rfl
      exact ⟨iff_of_true h.degraded h.streak_lt, fun _ => h⟩
  | some failed =>
      obtain ⟨hcount, hhealthy⟩ := hupdate.of_some failed rfl
      cases failed with
      | false =>
          have hnext : Counted count' healthy' 0 := counted_zero hcount healthy'
          exact ⟨iff_of_true hnext.degraded hnext.streak_lt, fun _ => hnext⟩
      | true =>
          have hlt := h.streak_lt
          have hnext : count'.toNat = (streak + 1) % 256 :=
            hupdate.toNat_eq_mod (h.count_eq.trans (Nat.mod_eq_of_lt hlt).symm)
          have hfits : Degraded healthy' (streak + 1) ↔ streak + 1 < 256 := by
            rw [degraded_iff_of_count hhealthy, hnext]
            omega
          refine ⟨hfits, fun hdegraded => ⟨hfits.mp hdegraded, ?_, hdegraded⟩⟩
          rw [hnext, Nat.mod_eq_of_lt (hfits.mp hdegraded)]
          rfl

/-! ## the two checks -/

section Checks

variable (p : MonitorPlatform) (r : MonitorReadings) (s : SystemMonitor)

/-- Whether cross-monitoring is executed, and whether its comparison fails. -/
def SystemMonitor.crossOutcome : Option Bool :=
  if systemMonitorGetSystemTimeUs p r.cross s - s.lastCrossMonitorTime < crossMonitorInterval then
    none
  else some (s.health.primaryMonitorHealthy ≠ s.health.secondaryMonitorHealthy)

/-- Whether the self-test is executed, and whether it fails. -/
def SystemMonitor.selfOutcome : Option Bool :=
  if systemMonitorGetSystemTimeUs p r.self s - s.lastSelfHealthCheckTime <
      selfHealthCheckInterval then
    none
  else some (selfTest p r s).1.not

/-- Cross-monitoring before its time. -/
theorem performCrossMonitoring_of_early
    (h : systemMonitorGetSystemTimeUs p r.cross s - s.lastCrossMonitorTime <
      crossMonitorInterval) : performCrossMonitoring p r s = (.none, s) :=
  if_pos h

/-- Cross-monitoring that is executed compares the two flags; the watchdogs
never fail it. -/
theorem performCrossMonitoring_of_due
    (h : ¬ systemMonitorGetSystemTimeUs p r.cross s - s.lastCrossMonitorTime <
      crossMonitorInterval) :
    (performCrossMonitoring p r s).2.crossMonitorFailCount =
        (if s.health.primaryMonitorHealthy ≠ s.health.secondaryMonitorHealthy then
          s.crossMonitorFailCount + 1 else 0) ∧
      (performCrossMonitoring p r s).2.crossMonitorHealthy =
        decide ((performCrossMonitoring p r s).2.crossMonitorFailCount <
          monitorDegradationThreshold) ∧
      (performCrossMonitoring p r s).2.selfHealthFailCount = s.selfHealthFailCount ∧
      (performCrossMonitoring p r s).2.selfHealthHealthy = s.selfHealthHealthy := by
  simp only [performCrossMonitoring, if_neg h, systemMonitorWatchdogCheckConsistency, ne_eq,
    not_true_eq_false, if_false]
  split <;> simp

/-- The self-health check before its time. -/
theorem performSelfHealthCheck_of_early
    (h : systemMonitorGetSystemTimeUs p r.self s - s.lastSelfHealthCheckTime <
      selfHealthCheckInterval) : performSelfHealthCheck p r s = (.none, s) :=
  if_pos h

/-- The tests do not read the time of the check. -/
theorem selfTest_fst_of_time (t : UInt64) :
    (selfTest p r { s with lastSelfHealthCheckTime := t }).1 = (selfTest p r s).1 := rfl

/-- The self-health check that is executed counts its self-test. -/
theorem performSelfHealthCheck_of_due
    (h : ¬ systemMonitorGetSystemTimeUs p r.self s - s.lastSelfHealthCheckTime <
      selfHealthCheckInterval) :
    (performSelfHealthCheck p r s).2.selfHealthFailCount =
        (if (selfTest p r s).1.not then s.selfHealthFailCount + 1 else 0) ∧
      (performSelfHealthCheck p r s).2.selfHealthHealthy =
        decide ((performSelfHealthCheck p r s).2.selfHealthFailCount <
          monitorDegradationThreshold) ∧
      (performSelfHealthCheck p r s).2.crossMonitorFailCount = s.crossMonitorFailCount ∧
      (performSelfHealthCheck p r s).2.crossMonitorHealthy = s.crossMonitorHealthy := by
  have htest := selfTest_fst_of_time p r s (systemMonitorGetSystemTimeUs p r.self s)
  simp only [performSelfHealthCheck, if_neg h, htest]
  cases (selfTest p r s).1 <;> simp [selfTest]

/-- **Cross-monitoring** recounts its check. -/
theorem recounts_performCrossMonitoring :
    Recounts (s.crossOutcome p r) s.crossMonitorFailCount s.crossMonitorHealthy
      (performCrossMonitoring p r s).2.crossMonitorFailCount
      (performCrossMonitoring p r s).2.crossMonitorHealthy := by
  refine recounts_of_interval (fun hearly => ?_) fun hdue => ?_
  · rw [performCrossMonitoring_of_early p r s hearly]
    exact ⟨rfl, rfl⟩
  · obtain ⟨hcount, hhealthy, -, -⟩ := performCrossMonitoring_of_due p r s hdue
    exact ⟨by simp [hcount], hhealthy⟩

/-- **The self-health check** recounts its check. -/
theorem recounts_performSelfHealthCheck :
    Recounts (s.selfOutcome p r) s.selfHealthFailCount s.selfHealthHealthy
      (performSelfHealthCheck p r s).2.selfHealthFailCount
      (performSelfHealthCheck p r s).2.selfHealthHealthy := by
  refine recounts_of_interval (fun hearly => ?_) fun hdue => ?_
  · rw [performSelfHealthCheck_of_early p r s hearly]
    exact ⟨rfl, rfl⟩
  · obtain ⟨hcount, hhealthy, -, -⟩ := performSelfHealthCheck_of_due p r s hdue
    exact ⟨hcount, hhealthy⟩

/-- Neither touches the count and the flag of the other. -/
theorem performCrossMonitoring_self :
    (performCrossMonitoring p r s).2.selfHealthFailCount = s.selfHealthFailCount ∧
      (performCrossMonitoring p r s).2.selfHealthHealthy = s.selfHealthHealthy := by
  by_cases hearly : systemMonitorGetSystemTimeUs p r.cross s - s.lastCrossMonitorTime <
      crossMonitorInterval
  · rw [performCrossMonitoring_of_early p r s hearly]
    exact ⟨rfl, rfl⟩
  · exact (performCrossMonitoring_of_due p r s hearly).2.2

theorem performSelfHealthCheck_cross :
    (performSelfHealthCheck p r s).2.crossMonitorFailCount = s.crossMonitorFailCount ∧
      (performSelfHealthCheck p r s).2.crossMonitorHealthy = s.crossMonitorHealthy := by
  by_cases hearly : systemMonitorGetSystemTimeUs p r.self s - s.lastSelfHealthCheckTime <
      selfHealthCheckInterval
  · rw [performSelfHealthCheck_of_early p r s hearly]
    exact ⟨rfl, rfl⟩
  · exact (performSelfHealthCheck_of_due p r s hearly).2.2

/-- The health update leaves to each check its own count and flag. -/
theorem systemMonitorUpdateHealthRedundant_cross :
    (systemMonitorUpdateHealthRedundant p r s).2.crossMonitorFailCount =
        (performCrossMonitoring p r s).2.crossMonitorFailCount ∧
      (systemMonitorUpdateHealthRedundant p r s).2.crossMonitorHealthy =
        (performCrossMonitoring p r s).2.crossMonitorHealthy := by
  simp only [systemMonitorUpdateHealthRedundant]
  exact performSelfHealthCheck_cross p r _

theorem systemMonitorUpdateHealthRedundant_self :
    (systemMonitorUpdateHealthRedundant p r s).2.selfHealthFailCount =
        (performSelfHealthCheck p r (performCrossMonitoring p r s).2).2.selfHealthFailCount ∧
      (systemMonitorUpdateHealthRedundant p r s).2.selfHealthHealthy =
        (performSelfHealthCheck p r (performCrossMonitoring p r s).2).2.selfHealthHealthy := by
  simp only [systemMonitorUpdateHealthRedundant, and_self]

end Checks

/-! ## runs -/

/-- The monitor and the streaks of its two checks. -/
structure MonitorRun where
  monitor : SystemMonitor
  crossStreak : Nat
  selfStreak : Nat

namespace MonitorRun

/-- The start of a run. -/
def start (monitor : SystemMonitor) : MonitorRun where
  monitor
  crossStreak := 0
  selfStreak := 0

/-- One health update. -/
def step (p : MonitorPlatform) (run : MonitorRun) (r : MonitorReadings) :
    MonitorError × MonitorRun :=
  let (result, monitor) := systemMonitorUpdateHealthRedundant p r run.monitor
  let checked := (performCrossMonitoring p r run.monitor).2
  (result,
    { monitor
      crossStreak := streakAfter run.crossStreak (run.monitor.crossOutcome p r)
      selfStreak := streakAfter run.selfStreak (checked.selfOutcome p r) })

/-- The cross-monitoring check degrades as it should. -/
def CrossDegraded (run : MonitorRun) : Prop :=
  Degraded run.monitor.crossMonitorHealthy run.crossStreak

/-- The self-health check does. -/
def SelfDegraded (run : MonitorRun) : Prop :=
  Degraded run.monitor.selfHealthHealthy run.selfStreak

instance (run : MonitorRun) : Decidable run.CrossDegraded :=
  inferInstanceAs (Decidable (Degraded _ _))

instance (run : MonitorRun) : Decidable run.SelfDegraded :=
  inferInstanceAs (Decidable (Degraded _ _))

/-- The fail count of cross-monitoring is its streak. -/
def CrossCounted (run : MonitorRun) : Prop :=
  Counted run.monitor.crossMonitorFailCount run.monitor.crossMonitorHealthy run.crossStreak

/-- The fail count of the self-health check is. -/
def SelfCounted (run : MonitorRun) : Prop :=
  Counted run.monitor.selfHealthFailCount run.monitor.selfHealthHealthy run.selfStreak

theorem crossCounted_start {s : SystemMonitor} (h : s.crossMonitorFailCount = 0) :
    (start s).CrossCounted :=
  counted_zero h _

theorem selfCounted_start {s : SystemMonitor} (h : s.selfHealthFailCount = 0) :
    (start s).SelfCounted :=
  counted_zero h _

variable {run : MonitorRun} (p : MonitorPlatform) (r : MonitorReadings)

theorem monitor_step :
    (run.step p r).2.monitor = (systemMonitorUpdateHealthRedundant p r run.monitor).2 := rfl

/-- **The cross-monitoring check over one update.** -/
theorem CrossCounted.step (h : run.CrossCounted) :
    ((run.step p r).2.CrossDegraded ↔ (run.step p r).2.crossStreak < 256) ∧
      ((run.step p r).2.CrossDegraded → (run.step p r).2.CrossCounted) := by
  have hrecounts := recounts_performCrossMonitoring p r run.monitor
  obtain ⟨hcount, hhealthy⟩ := systemMonitorUpdateHealthRedundant_cross p r run.monitor
  rw [← hcount, ← hhealthy, ← monitor_step] at hrecounts
  exact Counted.step h hrecounts

/-- **The self-health check over one update.** -/
theorem SelfCounted.step (h : run.SelfCounted) :
    ((run.step p r).2.SelfDegraded ↔ (run.step p r).2.selfStreak < 256) ∧
      ((run.step p r).2.SelfDegraded → (run.step p r).2.SelfCounted) := by
  have hrecounts := recounts_performSelfHealthCheck p r (performCrossMonitoring p r run.monitor).2
  obtain ⟨hcount, hhealthy⟩ := performCrossMonitoring_self p r run.monitor
  obtain ⟨hcount', hhealthy'⟩ := systemMonitorUpdateHealthRedundant_self p r run.monitor
  rw [hcount, hhealthy, ← hcount', ← hhealthy', ← monitor_step] at hrecounts
  exact Counted.step h hrecounts

end MonitorRun

/-- What a successful `system_monitor_service_init` leaves: two healthy paths,
and two checks that have counted and found nothing. -/
theorem systemMonitorServiceInit_of_ok {primary backup : MonitorError × UInt32}
    {s : SystemMonitor} (h : (systemMonitorServiceInit primary backup s).1 = .none) :
    (systemMonitorServiceInit primary backup s).2 =
      { SystemMonitor.zero with
        initialized := true
        health := ⟨100, 0, true, true⟩
        watchdogs := Vector.ofFn fun i =>
          { armed := false
            timeoutMs := systemMonitorWatchdogTimeoutMs
            lastPetTime := 0
            timeoutCount := 0
            independent := i.val = 0 }
        monitorPort := primary.2
        backupMonitorPort := backup.2
        primaryMode := true } := by
  unfold systemMonitorServiceInit at h ⊢
  split
  · next hinitialized =>
    rw [if_pos hinitialized] at h
    contradiction
  · next hinitialized =>
    rw [if_neg hinitialized] at h
    split
    · next hprimary =>
      rw [if_pos hprimary] at h
      exact absurd h hprimary
    · next hprimary =>
      rw [if_neg hprimary] at h
      split
      · next hbackup =>
        rw [if_pos hbackup] at h
        exact absurd h hbackup
      · rfl

/-- **A persistently failing check looks healthy again** after its 256th failure
in a row: after `system_monitor_service_init`, cross-monitoring is reported as
unhealthy whenever its comparison has failed three times or more in a row, if
and only if it never fails 256 times in a row; and so is the self-health
check. -/
theorem persistent_failure_iff (p : MonitorPlatform) {primary backup : MonitorError × UInt32}
    {s : SystemMonitor} (h : (systemMonitorServiceInit primary backup s).1 = .none)
    (readings : List MonitorReadings) :
    (Always (total (MonitorRun.step p)) (fun _ _ _ run => run.CrossDegraded)
        (.start (systemMonitorServiceInit primary backup s).2) readings ↔
      Always (total (MonitorRun.step p)) (fun _ _ _ run => run.crossStreak < 256)
        (.start (systemMonitorServiceInit primary backup s).2) readings) ∧
    (Always (total (MonitorRun.step p)) (fun _ _ _ run => run.SelfDegraded)
        (.start (systemMonitorServiceInit primary backup s).2) readings ↔
      Always (total (MonitorRun.step p)) (fun _ _ _ run => run.selfStreak < 256)
        (.start (systemMonitorServiceInit primary backup s).2) readings) := by
  rw [systemMonitorServiceInit_of_ok h]
  constructor
  · exact always_total_iff_always (fun run r (hrun : run.CrossCounted) => hrun.step p r)
      (MonitorRun.crossCounted_start rfl) readings
  · exact always_total_iff_always (fun run r (hrun : run.SelfCounted) => hrun.step p r)
      (MonitorRun.selfCounted_start rfl) readings

theorem oneMegahertz_ne_zero : (1000000 : UInt64) ≠ 0 := by decide

/-- A timer of 1 MHz. -/
def oneMegahertz : MonitorPlatform where
  timerFrequency := 1000000
  timerFrequency_ne_zero := oneMegahertz_ne_zero
  ipcPortInvalid := 0xFFFFFFFF

/-- The monitor with both its ports. -/
def monitorReady : SystemMonitor := (systemMonitorServiceInit (.none, 1) (.none, 2) .zero).2

/-- Updates once a second, with a timer that does not advance during the
self-test. -/
def stalledSelfTests (n : Nat) : List MonitorReadings :=
  (List.range n).map fun i =>
    let counter := UInt64.ofNat ((i + 1) * 1000000)
    ⟨counter, counter, counter, counter, counter, counter⟩

/-- The 256th self-test that fails makes the check healthy. -/
theorem persistent_failure_not_always_unhealthy :
    ¬ Always (total (MonitorRun.step oneMegahertz)) (fun _ _ _ run => run.SelfDegraded)
      (.start monitorReady) (stalledSelfTests 256) := by
  decide +kernel

/-- The same updates, stated as the equivalence. -/
theorem persistent_failure_iff_stalledSelfTests :
    Always (total (MonitorRun.step oneMegahertz)) (fun _ _ _ run => run.SelfDegraded)
        (.start monitorReady) (stalledSelfTests 256) ↔
      Always (total (MonitorRun.step oneMegahertz)) (fun _ _ _ run => run.selfStreak < 256)
        (.start monitorReady) (stalledSelfTests 256) :=
  (persistent_failure_iff oneMegahertz (by decide) (stalledSelfTests 256)).2

end AutoMlos
