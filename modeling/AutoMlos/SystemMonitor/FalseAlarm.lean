import AutoMlos.SystemMonitor.Degradation

/-!
# AutoMlos.SystemMonitor.FalseAlarm

Whether a monitor that nothing disturbs raises an alarm.

`system_monitor_service_init` reports the full score and two healthy paths,
but leaves the flags of the two periodic checks unset.  Each is set by the
first execution of its check, and from then on an undisturbed check keeps it.
So a run of undisturbed updates raises no alarm exactly when its first update
comes late enough to execute both (`no_false_alarm_iff`).
-/

namespace AutoMlos

open Lib

/-- One health update, with what the rest of the service has stored before it:
the time of the last heartbeat, and the watchdogs. -/
structure HealthUpdate where
  lastHeartbeatTime : UInt64
  watchdogs : Vector RedundantWatchdog 2
  readings : MonitorReadings

/-- The monitor that an update finds. -/
def SystemMonitor.found (s : SystemMonitor) (u : HealthUpdate) : SystemMonitor :=
  { s with lastHeartbeatTime := u.lastHeartbeatTime, watchdogs := u.watchdogs }

/-- One health update. -/
def SystemMonitor.step (p : MonitorPlatform) (s : SystemMonitor) (u : HealthUpdate) :
    MonitorError × SystemMonitor :=
  systemMonitorUpdateHealthRedundant p u.readings (s.found u)

/-- Nothing disturbs the update: the heartbeat is at most 200 ms old, no
watchdog is late, and the self-test does not fail if it is executed. -/
structure Undisturbed (p : MonitorPlatform) (s : SystemMonitor) (u : HealthUpdate) : Prop where
  heartbeat : systemMonitorGetSystemTimeUs p u.readings.current s - u.lastHeartbeatTime ≤
    heartbeatMargin
  watchdogs : ∀ i : Fin 2,
    (u.watchdogs.get i).late (systemMonitorGetSystemTimeUs p u.readings.watchdog s) = false
  selfTest :
    (performCrossMonitoring p u.readings (s.found u)).2.selfOutcome p u.readings ≠ some true

instance (p : MonitorPlatform) (s : SystemMonitor) (u : HealthUpdate) :
    Decidable (Undisturbed p s u) :=
  decidable_of_iff
    (systemMonitorGetSystemTimeUs p u.readings.current s - u.lastHeartbeatTime ≤ heartbeatMargin ∧
      (∀ i : Fin 2, (u.watchdogs.get i).late
        (systemMonitorGetSystemTimeUs p u.readings.watchdog s) = false) ∧
      (performCrossMonitoring p u.readings (s.found u)).2.selfOutcome p u.readings ≠ some true)
    ⟨fun h => ⟨h.1, h.2.1, h.2.2⟩, fun h => ⟨h.heartbeat, h.watchdogs, h.selfTest⟩⟩

/-- The full score, and reliable for safety functions. -/
def NoAlarm (s : SystemMonitor) : Prop :=
  s.health.overallScore = 100 ∧ systemMonitorIsReliableForSafety s = true

instance (s : SystemMonitor) : Decidable (NoAlarm s) := inferInstanceAs (Decidable (_ ∧ _))

/-! ## one update -/

/-- An initialised monitor both of whose paths are healthy. -/
structure SystemMonitor.Nominal (s : SystemMonitor) : Prop where
  initialized : s.initialized = true
  primary : s.health.primaryMonitorHealthy = true
  secondary : s.health.secondaryMonitorHealthy = true

section Update

variable (p : MonitorPlatform) (r : MonitorReadings) {s : SystemMonitor}

/-- Cross-monitoring is due. -/
def SystemMonitor.CrossDue (s : SystemMonitor) : Prop :=
  crossMonitorInterval ≤ systemMonitorGetSystemTimeUs p r.cross s - s.lastCrossMonitorTime

/-- The self-health check is due. -/
def SystemMonitor.SelfDue (s : SystemMonitor) : Prop :=
  selfHealthCheckInterval ≤ systemMonitorGetSystemTimeUs p r.self s - s.lastSelfHealthCheckTime

/-- Cross-monitoring leaves alone what the rest of the update reads. -/
theorem performCrossMonitoring_frame (s : SystemMonitor) :
    (performCrossMonitoring p r s).2.initialized = s.initialized ∧
      (performCrossMonitoring p r s).2.health = s.health ∧
      (performCrossMonitoring p r s).2.lastHeartbeatTime = s.lastHeartbeatTime ∧
      (performCrossMonitoring p r s).2.lastSelfHealthCheckTime = s.lastSelfHealthCheckTime := by
  by_cases hearly : systemMonitorGetSystemTimeUs p r.cross s - s.lastCrossMonitorTime <
      crossMonitorInterval
  · rw [performCrossMonitoring_of_early p r s hearly]
    exact ⟨rfl, rfl, rfl, rfl⟩
  · simp only [performCrossMonitoring, if_neg hearly, systemMonitorWatchdogCheckConsistency,
      ne_eq, not_true_eq_false, if_false]
    split <;> exact ⟨rfl, rfl, rfl, rfl⟩

/-- The memory test leaves the monitor initialised and running. -/
theorem selfTest_state (s : SystemMonitor) :
    (selfTest p r s).2 = { s with initialized := true, running := true } :=
  rfl

/-- The self-health check does, too, if the monitor is initialised. -/
theorem performSelfHealthCheck_frame (hinit : s.initialized = true) :
    (performSelfHealthCheck p r s).2.initialized = true ∧
      (performSelfHealthCheck p r s).2.health = s.health ∧
      (performSelfHealthCheck p r s).2.lastHeartbeatTime = s.lastHeartbeatTime := by
  by_cases hearly : systemMonitorGetSystemTimeUs p r.self s - s.lastSelfHealthCheckTime <
      selfHealthCheckInterval
  · rw [performSelfHealthCheck_of_early p r s hearly]
    exact ⟨hinit, rfl, rfl⟩
  · simp only [performSelfHealthCheck, if_neg hearly, selfTest_state]
    split <;> exact ⟨rfl, rfl, rfl⟩

/-- With both paths healthy, cross-monitoring sets its flag when it is due. -/
theorem SystemMonitor.Nominal.crossMonitorHealthy_iff (h : s.Nominal) :
    (performCrossMonitoring p r s).2.crossMonitorHealthy = true ↔
      s.crossMonitorHealthy = true ∨ s.CrossDue p r := by
  by_cases hearly : systemMonitorGetSystemTimeUs p r.cross s - s.lastCrossMonitorTime <
      crossMonitorInterval
  · rw [performCrossMonitoring_of_early p r s hearly, CrossDue, or_iff_left]
    exact UInt64.not_le.mpr hearly
  · obtain ⟨hcount, hhealthy, -, -⟩ := performCrossMonitoring_of_due p r s hearly
    have hzero : (performCrossMonitoring p r s).2.crossMonitorFailCount = 0 := by
      rw [hcount, h.primary, h.secondary]
      rfl
    rw [hhealthy, hzero]
    exact iff_of_true rfl (Or.inr (UInt64.not_lt.mp hearly))

/-- A self-test that does not fail sets its flag when it is due, and is no
error. -/
theorem performSelfHealthCheck_of_not_fail (s : SystemMonitor)
    (hpass : s.selfOutcome p r ≠ some true) :
    (performSelfHealthCheck p r s).1 = .none ∧
      ((performSelfHealthCheck p r s).2.selfHealthHealthy = true ↔
        s.selfHealthHealthy = true ∨ s.SelfDue p r) := by
  by_cases hearly : systemMonitorGetSystemTimeUs p r.self s - s.lastSelfHealthCheckTime <
      selfHealthCheckInterval
  · rw [performSelfHealthCheck_of_early p r s hearly, SystemMonitor.SelfDue]
    exact ⟨rfl, (or_iff_left (UInt64.not_le.mpr hearly)).symm⟩
  · have htest : (selfTest p r s).1 = true := by
      rw [SystemMonitor.selfOutcome, if_neg hearly] at hpass
      simpa using hpass
    obtain ⟨hcount, hhealthy, -, -⟩ := performSelfHealthCheck_of_due p r s hearly
    refine ⟨?_, ?_⟩
    · have htest' :=
        (selfTest_fst_of_time p r s (systemMonitorGetSystemTimeUs p r.self s)).trans htest
      simp only [performSelfHealthCheck, if_neg hearly, htest', if_true]
    · have hzero : (performSelfHealthCheck p r s).2.selfHealthFailCount = 0 := by
        rw [hcount, htest]
        rfl
      rw [hhealthy, hzero]
      exact iff_of_true rfl (Or.inr (UInt64.not_lt.mp hearly))

/-- The update judges the two paths, and scores the monitor that it leaves. -/
theorem systemMonitorUpdateHealthRedundant_health (s : SystemMonitor) :
    let checked := performSelfHealthCheck p r (performCrossMonitoring p r s).2
    let updated := (systemMonitorUpdateHealthRedundant p r s).2
    updated.initialized = checked.2.initialized ∧
      updated.health.primaryMonitorHealthy =
        decide (systemMonitorGetSystemTimeUs p r.current s - checked.2.lastHeartbeatTime ≤
          heartbeatMargin) ∧
      updated.health.secondaryMonitorHealthy = decide (checked.1 = .none) ∧
      updated.health.overallScore = updated.overallScore := by
  simp only [systemMonitorUpdateHealthRedundant, SystemMonitor.overallScore, and_self]

end Update

section Step

variable {p : MonitorPlatform} {s : SystemMonitor} {u : HealthUpdate}

/-- A monitor with two healthy paths that has just been scored raises no alarm
when the flags of both checks are set. -/
theorem SystemMonitor.Nominal.noAlarm_iff (h : s.Nominal)
    (hscore : s.health.overallScore = s.overallScore) :
    NoAlarm s ↔ s.crossMonitorHealthy = true ∧ s.selfHealthHealthy = true := by
  rw [NoAlarm, hscore, SystemMonitor.overallScore, systemMonitorIsReliableForSafety, h.primary,
    h.secondary]
  cases s.crossMonitorHealthy <;> cases s.selfHealthHealthy <;> decide

/-- **One undisturbed update** keeps both paths healthy and sets the flag of
each check that is due; it raises no alarm when both flags are set. -/
theorem SystemMonitor.Nominal.step (h : s.Nominal) (hu : Undisturbed p s u) :
    (s.step p u).2.Nominal ∧
      ((s.step p u).2.crossMonitorHealthy = true ↔
        s.crossMonitorHealthy = true ∨ s.CrossDue p u.readings) ∧
      ((s.step p u).2.selfHealthHealthy = true ↔
        s.selfHealthHealthy = true ∨ s.SelfDue p u.readings) ∧
      (NoAlarm (s.step p u).2 ↔ (s.step p u).2.crossMonitorHealthy = true ∧
        (s.step p u).2.selfHealthHealthy = true) := by
  have hfound : (s.found u).Nominal := ⟨h.initialized, h.primary, h.secondary⟩
  obtain ⟨hinit, -, hheartbeat, hlastSelf⟩ :=
    performCrossMonitoring_frame p u.readings (s.found u)
  obtain ⟨hinit', -, hheartbeat'⟩ :=
    performSelfHealthCheck_frame p u.readings (hinit.trans hfound.initialized)
  obtain ⟨hresult, hself⟩ := performSelfHealthCheck_of_not_fail p u.readings _ hu.selfTest
  have hcross := hfound.crossMonitorHealthy_iff p u.readings
  obtain ⟨hready, hprimary, hsecondary, hscore⟩ :=
    systemMonitorUpdateHealthRedundant_health p u.readings (s.found u)
  have hnominal : (s.step p u).2.Nominal := by
    rw [hheartbeat', hheartbeat] at hprimary
    exact ⟨hready.trans hinit', hprimary.trans (decide_eq_true hu.heartbeat),
      hsecondary.trans (decide_eq_true hresult)⟩
  refine ⟨hnominal, ?_, ?_, hnominal.noAlarm_iff hscore⟩
  · rw [SystemMonitor.step, (systemMonitorUpdateHealthRedundant_cross p u.readings _).2, hcross]
    exact Iff.rfl
  · obtain ⟨-, hflag⟩ := performCrossMonitoring_self p u.readings (s.found u)
    rw [SystemMonitor.step, (systemMonitorUpdateHealthRedundant_self p u.readings _).2, hself,
      hflag, SystemMonitor.SelfDue, hlastSelf, systemMonitorGetSystemTimeUs, hinit]
    exact Iff.rfl

end Step

/-! ## runs -/

/-- A monitor both of whose flags are set: undisturbed, it raises no alarm. -/
structure SystemMonitor.Settled (s : SystemMonitor) : Prop extends s.Nominal where
  cross : s.crossMonitorHealthy = true
  self : s.selfHealthHealthy = true

section Runs

variable {p : MonitorPlatform} {s : SystemMonitor}

theorem SystemMonitor.Settled.step (h : s.Settled) {u : HealthUpdate}
    (hu : Undisturbed p s u) : NoAlarm (s.step p u).2 ∧ (s.step p u).2.Settled := by
  obtain ⟨hnominal, hcross, hself, halarm⟩ := h.toNominal.step hu
  have hflags := And.intro (hcross.mpr (Or.inl h.cross)) (hself.mpr (Or.inl h.self))
  exact ⟨halarm.mpr hflags, hnominal, hflags.1, hflags.2⟩

/-- Once both flags are set, an undisturbed run raises no alarm. -/
theorem SystemMonitor.Settled.always_noAlarm (h : s.Settled) {updates : List HealthUpdate}
    (hupdates : Always (total (SystemMonitor.step p)) (fun s u _ _ => Undisturbed p s u) s
      updates) :
    Always (total (SystemMonitor.step p)) (fun _ _ _ s' => NoAlarm s') s updates := by
  refine (always_and_of_invariant (fun s u reply s' (hs : s.Settled) heq hu => ?_) h
    hupdates).imp fun _ _ _ _ => And.right
  cases heq
  exact hs.step hu

/-- The microseconds that a counter of the timer stands for. -/
def MonitorPlatform.timeUs (p : MonitorPlatform) (counter : UInt64) : UInt64 :=
  counter * 1000000 / p.timerFrequency

/-- The update comes late enough to execute both checks for the first time. -/
def HealthUpdate.LateEnough (p : MonitorPlatform) (u : HealthUpdate) : Prop :=
  crossMonitorInterval ≤ p.timeUs u.readings.cross ∧
    selfHealthCheckInterval ≤ p.timeUs u.readings.self

/-- From a monitor that has not executed its checks yet. -/
theorem always_noAlarm_iff (h : s.Nominal) (hcross : s.crossMonitorHealthy = false)
    (hself : s.selfHealthHealthy = false) (hlastCross : s.lastCrossMonitorTime = 0)
    (hlastSelf : s.lastSelfHealthCheckTime = 0) {updates : List HealthUpdate}
    (hupdates : Always (total (SystemMonitor.step p)) (fun s u _ _ => Undisturbed p s u) s
      updates) :
    Always (total (SystemMonitor.step p)) (fun _ _ _ s' => NoAlarm s') s updates ↔
      ∀ u ∈ updates.head?, u.LateEnough p := by
  cases updates with
  | nil => simp
  | cons u updates =>
      rw [always_total_cons] at hupdates ⊢
      obtain ⟨hu, hrest⟩ := hupdates
      obtain ⟨hnominal, hcross', hself', halarm⟩ := h.step hu
      have htime (counter : UInt64) : systemMonitorGetSystemTimeUs p counter s =
          p.timeUs counter := if_neg (by simp [h.initialized])
      have hfirst : NoAlarm (s.step p u).2 ↔ u.LateEnough p := by
        rw [halarm, hcross', hself', hcross, hself, SystemMonitor.CrossDue,
          SystemMonitor.SelfDue, hlastCross, hlastSelf, htime, htime, UInt64.sub_zero,
          UInt64.sub_zero]
        simp [HealthUpdate.LateEnough]
      simp only [List.head?_cons, Option.mem_some_iff, forall_eq', hfirst]
      refine and_iff_left_of_imp fun hlate => ?_
      obtain ⟨hset, hset'⟩ := halarm.mp (hfirst.mpr hlate)
      exact SystemMonitor.Settled.always_noAlarm ⟨hnominal, hset, hset'⟩ hrest

end Runs

/-- **No false alarm**: after `system_monitor_service_init`, a run of undisturbed
updates raises no alarm exactly when its first update, if there is one, comes
late enough to execute both checks. -/
theorem no_false_alarm_iff (p : MonitorPlatform) {primary backup : MonitorError × UInt32}
    {s : SystemMonitor} (h : (systemMonitorServiceInit primary backup s).1 = .none)
    (updates : List HealthUpdate)
    (hupdates : Always (total (SystemMonitor.step p)) (fun s u _ _ => Undisturbed p s u)
      (systemMonitorServiceInit primary backup s).2 updates) :
    Always (total (SystemMonitor.step p)) (fun _ _ _ s' => NoAlarm s')
        (systemMonitorServiceInit primary backup s).2 updates ↔
      ∀ u ∈ updates.head?, u.LateEnough p := by
  rw [systemMonitorServiceInit_of_ok h] at hupdates ⊢
  exact always_noAlarm_iff ⟨rfl, rfl, rfl⟩ rfl rfl rfl rfl hupdates

/-- An update at this counter of a timer of 1 MHz, right after a heartbeat and
with petted watchdogs; its self-test takes a millisecond. -/
def quietUpdate (counter : UInt64) : HealthUpdate where
  lastHeartbeatTime := counter
  watchdogs := Vector.replicate 2 ⟨true, 1000, counter, 0, false⟩
  readings := ⟨counter, counter, counter, counter, counter, counter + 1000⟩

/-- An update after two seconds. -/
theorem no_false_alarm_iff_quietUpdate :
    Always (total (SystemMonitor.step oneMegahertz)) (fun _ _ _ s' => NoAlarm s') monitorReady
        [quietUpdate 2000000] ↔
      ∀ u ∈ [quietUpdate 2000000].head?, u.LateEnough oneMegahertz :=
  no_false_alarm_iff oneMegahertz (by decide) [quietUpdate 2000000] (by decide +kernel)

/-- The system times of a run do not decrease. -/
def InTimeOrder (p : MonitorPlatform) (updates : List HealthUpdate) : Prop :=
  (updates.flatMap fun u =>
    [u.readings.current, u.readings.cross, u.readings.watchdog, u.readings.self,
      u.readings.testStart, u.readings.testEnd].map p.timeUs).Pairwise (· ≤ ·)

instance (p : MonitorPlatform) (updates : List HealthUpdate) :
    Decidable (InTimeOrder p updates) :=
  inferInstanceAs (Decidable (List.Pairwise _ _))

/-- An update 100 ms after the start finds nothing wrong, and gives the score
0. -/
theorem not_always_no_false_alarm :
    ¬ ∀ (p : MonitorPlatform) (primary backup : MonitorError × UInt32) (s : SystemMonitor)
      (updates : List HealthUpdate),
      (systemMonitorServiceInit primary backup s).1 = .none → InTimeOrder p updates →
      Always (total (SystemMonitor.step p)) (fun s u _ _ => Undisturbed p s u)
        (systemMonitorServiceInit primary backup s).2 updates →
      Always (total (SystemMonitor.step p)) (fun _ _ _ s' => NoAlarm s')
        (systemMonitorServiceInit primary backup s).2 updates := by
  intro h
  have hrun := h oneMegahertz (.none, 1) (.none, 2) .zero [quietUpdate 100000] (by decide)
    (by decide +kernel) (by decide +kernel)
  revert hrun
  decide +kernel

end AutoMlos
