import AutoMlos.SystemMonitor.MemoryTest
import AutoMlos.SystemMonitor.MissedWatchdog

/-!
# AutoMlos.SystemMonitor.Watchdogs

The two redundant watchdogs of the monitor over the hardware driver.

A pet is passed on to the driver, and the time of the primary watchdog is
renewed only if the driver accepts it.  It never does.  So the primary watchdog
counts from its arming: from one timeout after that on every check, called or
made by a health update, finds it late, and one that does while the secondary
path is healthy switches the monitor to its backup for good
(`primary_watchdog_never_petted`).

`hw_watchdog_set_timeout_callback` and `system_monitor_service_start` are not
part of the repository.  The first is an input that leaves the state of the
watchdog alone; of the second only the flag `running` matters.  Nothing calls
`hw_watchdog_timeout_handler`: that is left to platform code.
-/

namespace AutoMlos

open Lib

/-- What `hw_watchdog_set_timeout_callback` does to the driver. -/
structure CallbackSetter where
  set : HwWatchdog → HwWatchdog
  state_set : ∀ w, (set w).state = w.state

/-- What `system_monitor_watchdog_arm_redundant` answers:
`SYSTEM_ERROR_NOT_INITIALIZED`, or the result of `hw_watchdog_init`. -/
inductive ArmResult where
  | notInitialized
  | watchdog (error : SystemError)
  deriving DecidableEq, Repr

theorem watchdog_lt (i : Fin 2) : (i : Nat) < 2 := i.isLt

/-- `armed = true` and `last_pet_time = current_time` of a watchdog. -/
def SystemMonitor.arm (s : SystemMonitor) (i : Fin 2) (currentTime : UInt64) : SystemMonitor :=
  let watchdog := { s.watchdogs.get i with armed := true, lastPetTime := currentTime }
  { s with watchdogs := s.watchdogs.set i watchdog (watchdog_lt i) }

/-- `system_monitor_watchdog_arm_redundant`, with the result of the driver's
self-test and the two counters that it reads. -/
def systemMonitorWatchdogArmRedundant (p : MonitorPlatform) (setter : CallbackSetter)
    (selfTest : SystemError) (counter counter' : UInt64) (w : HwWatchdog) (s : SystemMonitor) :
    ArmResult × HwWatchdog × SystemMonitor :=
  if s.initialized = false then (.notInitialized, w, s)
  else
    let (ret, w) := hwWatchdogInit (s.watchdogs.get 0).timeoutMs selfTest w
    let (w, s) :=
      if ret.errorCode = errBaseOk then
        (setter.set w, s.arm 0 (systemMonitorGetSystemTimeUs p counter s))
      else (w, s)
    (.watchdog ret, w, s.arm 1 (systemMonitorGetSystemTimeUs p counter' s))

/-! ## runs -/

/-- A call into the monitor or its driver. -/
inductive WatchdogsCall where
  | arm (selfTest : SystemError) (counter counter' : UInt64)
  | pet (counter petCounter : UInt64)
  | check (counter : UInt64)
  | update (readings : MonitorReadings)
  | setRunning (running : Bool)

/-- What a call answers, as far as the watchdogs are concerned. -/
inductive WatchdogsReply where
  | armed (result : ArmResult)
  | petted (result : PetResult)
  | done
  deriving DecidableEq, Repr

/-- The monitor and the driver, with the time of the last successful arming. -/
structure Watchdogs where
  driver : HwWatchdog
  monitor : SystemMonitor
  armedAt : UInt64

namespace Watchdogs

variable (p : MonitorPlatform) (setter : CallbackSetter)

/-- One call. -/
def step (s : Watchdogs) : WatchdogsCall → WatchdogsReply × Watchdogs
  | .arm selfTest counter counter' =>
      let (result, driver, monitor) :=
        systemMonitorWatchdogArmRedundant p setter selfTest counter counter' s.driver s.monitor
      let armedAt :=
        match result with
        | .watchdog error =>
            if error.errorCode = errBaseOk then systemMonitorGetSystemTimeUs p counter s.monitor
            else s.armedAt
        | .notInitialized => s.armedAt
      (.armed result, { driver, monitor, armedAt })
  | .pet counter petCounter =>
      let (result, driver, monitor) :=
        systemMonitorWatchdogPetRedundant p counter petCounter s.driver s.monitor
      (.petted result, { s with driver, monitor })
  | .check counter =>
      let currentTime := systemMonitorGetSystemTimeUs p counter s.monitor
      (.done, { s with monitor := (systemMonitorWatchdogCheckConsistency currentTime s.monitor).2 })
  | .update readings =>
      (.done, { s with monitor := (systemMonitorUpdateHealthRedundant p readings s.monitor).2 })
  | .setRunning running => (.done, { s with monitor := { s.monitor with running } })

/-- A driver that was not used yet and a monitor that was just initialised. -/
def start (primary backup : MonitorError × UInt32) : Watchdogs where
  driver := .zero
  monitor := (systemMonitorServiceInit primary backup .zero).2
  armedAt := 0

/-- The primary watchdog. -/
def primary (s : Watchdogs) : RedundantWatchdog := s.monitor.watchdogs.get 0

/-- More than the timeout of a second has passed since the arming. -/
def Expired (s : Watchdogs) (counter : UInt64) : Prop :=
  systemMonitorGetSystemTimeUs p counter s.monitor - s.armedAt > 1000000

instance (s : Watchdogs) (counter : UInt64) : Decidable (s.Expired p counter) :=
  inferInstanceAs (Decidable (_ > _))

/-- What `hw_timer_get_counter` answers the consistency check that a call makes.
In a health update only a cross-monitoring that is due makes one. -/
def checkedAt (s : Watchdogs) : WatchdogsCall → Option UInt64
  | .check counter => some counter
  | .update readings => (s.monitor.crossOutcome p readings).map fun _ => readings.watchdog
  | .arm .. | .pet .. | .setRunning _ => none

/-- A call makes a consistency check, more than a timeout after the arming. -/
def FindsLate (s : Watchdogs) (call : WatchdogsCall) : Prop :=
  ∃ counter ∈ s.checkedAt p call, s.Expired p counter

instance (s : Watchdogs) (call : WatchdogsCall) : Decidable (s.FindsLate p call) :=
  inferInstanceAs (Decidable (∃ _ ∈ _, _))

/-- **The invariant**: the driver is not armed, and the primary watchdog has
the time of its arming. -/
structure Unpetted (s : Watchdogs) : Prop where
  unarmed : s.driver.state ≠ .armed
  initialized : s.monitor.initialized = true
  timeout : s.primary.timeoutMs = 1000
  since : s.primary.lastPetTime = s.armedAt

/-! ## what calls leave alone -/

/-- What a call of the monitor does to it that found the primary watchdog late
in a consistency check, or did not. -/
structure Checked (late : Bool) (m m' : SystemMonitor) : Prop where
  initialized : m.initialized = true → m'.initialized = true
  watchdog : m'.watchdogs.get 0 =
    if late then
      { m.watchdogs.get 0 with timeoutCount := (m.watchdogs.get 0).timeoutCount + 1 }
    else m.watchdogs.get 0
  mode : m'.primaryMode =
    if late && m.health.secondaryMonitorHealthy then false else m.primaryMode

theorem Checked.refl (m : SystemMonitor) : Checked false m m := ⟨id, rfl, rfl⟩

/-- A check, and then a part of the call without one. -/
theorem Checked.trans {late : Bool} {m m' m'' : SystemMonitor} (h : Checked late m m')
    (h' : Checked false m' m'') : Checked late m m'' :=
  ⟨h'.initialized ∘ h.initialized, h'.watchdog.trans h.watchdog, h'.mode.trans h.mode⟩

/-- A part of the call without a check that leaves the health flags, and then
the check. -/
theorem Checked.before {late : Bool} {m m' m'' : SystemMonitor} (h : Checked false m m')
    (hhealth : m'.health = m.health) (h' : Checked late m' m'') : Checked late m m'' := by
  have hwatchdog : m'.watchdogs.get 0 = m.watchdogs.get 0 := h.watchdog
  have hmode : m'.primaryMode = m.primaryMode := h.mode
  refine ⟨h'.initialized ∘ h.initialized, ?_, ?_⟩
  · rw [h'.watchdog, hwatchdog]
  · rw [h'.mode, hmode, hhealth]

/-- The check counts a late watchdog, and switches to a healthy backup. -/
theorem checked_checkConsistency (currentTime : UInt64) (m : SystemMonitor) :
    Checked ((m.watchdogs.get 0).late currentTime) m
      (systemMonitorWatchdogCheckConsistency currentTime m).2 := by
  refine ⟨id, Vector.getElem_map _ _, ?_⟩
  simp only [systemMonitorWatchdogCheckConsistency, Bool.and_eq_true]

/-- Cross-monitoring checks if it is due. -/
theorem checked_performCrossMonitoring (r : MonitorReadings) (m : SystemMonitor) :
    Checked ((m.crossOutcome p r).any fun _ =>
        (m.watchdogs.get 0).late (systemMonitorGetSystemTimeUs p r.watchdog m))
      m (performCrossMonitoring p r m).2 := by
  by_cases hearly : systemMonitorGetSystemTimeUs p r.cross m - m.lastCrossMonitorTime <
      crossMonitorInterval
  · rw [performCrossMonitoring_of_early p r m hearly, SystemMonitor.crossOutcome, if_pos hearly]
    exact .refl m
  · rw [SystemMonitor.crossOutcome, if_neg hearly]
    simp only [performCrossMonitoring, if_neg hearly]
    generalize hcounted : (if m.health.primaryMonitorHealthy ≠ m.health.secondaryMonitorHealthy then
      { m with
        lastCrossMonitorTime := systemMonitorGetSystemTimeUs p r.cross m
        crossMonitorFailCount := m.crossMonitorFailCount + 1 }
      else
      { m with
        lastCrossMonitorTime := systemMonitorGetSystemTimeUs p r.cross m
        crossMonitorFailCount := 0 }) = counted
    have hfirst : Checked false m counted ∧ counted.health = m.health ∧
        counted.watchdogs = m.watchdogs ∧ counted.initialized = m.initialized := by
      rw [← hcounted]
      split <;> exact ⟨⟨id, rfl, rfl⟩, rfl, rfl, rfl⟩
    obtain ⟨hfirst, hhealth, hwatchdogs, hinitialized⟩ := hfirst
    have htime : systemMonitorGetSystemTimeUs p r.watchdog counted =
        systemMonitorGetSystemTimeUs p r.watchdog m := by
      rw [systemMonitorGetSystemTimeUs, hinitialized]
      rfl
    have hcheck :=
      checked_checkConsistency (systemMonitorGetSystemTimeUs p r.watchdog counted) counted
    rw [hwatchdogs, htime] at hcheck
    rw [htime]
    -- the threshold after the check is set from the fail count alone
    exact hfirst.before hhealth ⟨hcheck.initialized, hcheck.watchdog, hcheck.mode⟩

theorem checked_performSelfHealthCheck (r : MonitorReadings) (m : SystemMonitor) :
    Checked false m (performSelfHealthCheck p r m).2 := by
  by_cases hearly : systemMonitorGetSystemTimeUs p r.self m - m.lastSelfHealthCheckTime <
      selfHealthCheckInterval
  · rw [performSelfHealthCheck_of_early p r m hearly]
    exact .refl m
  · simp only [performSelfHealthCheck, if_neg hearly, selfTest_state]
    split <;> exact ⟨fun _ => rfl, rfl, rfl⟩

/-- The health flags are set only after the checks. -/
theorem checked_update (r : MonitorReadings) (m : SystemMonitor) :
    Checked ((m.crossOutcome p r).any fun _ =>
        (m.watchdogs.get 0).late (systemMonitorGetSystemTimeUs p r.watchdog m))
      m (systemMonitorUpdateHealthRedundant p r m).2 := by
  have hchecks := (checked_performCrossMonitoring p r m).trans
    (checked_performSelfHealthCheck p r _)
  exact ⟨hchecks.initialized, hchecks.watchdog, hchecks.mode⟩

/-! ## one call -/

/-- **What a call does to the primary watchdog**: no pet is accepted, its time
stays that of the arming, it is counted late by a check that comes when its
timeout has passed since then and by nothing else, and the monitor is on its
backup exactly if it was or such a check found the backup healthy. -/
structure LeftAlone (s : Watchdogs) (call : WatchdogsCall) (reply : WatchdogsReply)
    (s' : Watchdogs) : Prop where
  refused : ∀ error, reply = .petted (.watchdog error) → error.errorCode ≠ errBaseOk
  since : s'.primary.lastPetTime = s'.armedAt
  counted : s'.primary.timeoutCount =
    if s.FindsLate p call then s.primary.timeoutCount + 1 else s.primary.timeoutCount
  switched : s'.monitor.primaryMode = false ↔ s.monitor.primaryMode = false ∨
    s.FindsLate p call ∧ s.monitor.health.secondaryMonitorHealthy = true

section Step

variable {s : Watchdogs}

theorem Unpetted.of_checked (h : s.Unpetted) {late : Bool} {m : SystemMonitor}
    (hchecked : Checked late s.monitor m) : Unpetted { s with monitor := m } := by
  refine ⟨h.unarmed, hchecked.initialized h.initialized, ?_, ?_⟩
  · rw [primary, hchecked.watchdog, ← h.timeout, primary]
    split <;> rfl
  · rw [primary, hchecked.watchdog, ← h.since, primary]
    split <;> rfl

/-- The primary watchdog is late when its timeout has passed since its arming. -/
theorem Unpetted.late_iff (h : s.Unpetted) (counter : UInt64) :
    s.primary.late (systemMonitorGetSystemTimeUs p counter s.monitor) = true ↔
      s.Expired p counter := by
  rw [RedundantWatchdog.late, h.since, h.timeout, decide_eq_true_iff]
  rfl

/-- A call finds it late that checks it when it is. -/
theorem Unpetted.any_late_iff (h : s.Unpetted) (call : WatchdogsCall) :
    ((s.checkedAt p call).any fun counter =>
        s.primary.late (systemMonitorGetSystemTimeUs p counter s.monitor)) = true ↔
      s.FindsLate p call := by
  rw [FindsLate]
  cases s.checkedAt p call with
  | none =>
      exact iff_of_false Bool.false_ne_true fun ⟨_, hcounter, _⟩ => Option.not_mem_none _ hcounter
  | some counter => simp [h.late_iff p counter]

/-- A call whose only effect on the primary watchdog is its check. -/
theorem Unpetted.leftAlone (h : s.Unpetted) {call : WatchdogsCall} {reply : WatchdogsReply}
    {m : SystemMonitor}
    (hrefused : ∀ error, reply = .petted (.watchdog error) → error.errorCode ≠ errBaseOk)
    (hchecked : Checked ((s.checkedAt p call).any fun counter =>
      s.primary.late (systemMonitorGetSystemTimeUs p counter s.monitor)) s.monitor m) :
    LeftAlone p s call reply { s with monitor := m } := by
  have hlate := h.any_late_iff p call
  refine ⟨hrefused, (h.of_checked hchecked).since, ?_, ?_⟩
  · rw [primary, hchecked.watchdog, apply_ite RedundantWatchdog.timeoutCount]
    exact if_congr hlate rfl rfl
  · rw [hchecked.mode, ← hlate]
    generalize (s.checkedAt p call).any _ = late
    cases late <;> cases s.monitor.health.secondaryMonitorHealthy <;> simp

/-- A pet is refused by the service or by the driver, and leaves the primary
watchdog alone. -/
theorem Unpetted.pet (h : s.Unpetted) (counter petCounter : UInt64) :
    (systemMonitorWatchdogPetRedundant p counter petCounter s.driver s.monitor).2.1 = s.driver ∧
      Checked false s.monitor
        (systemMonitorWatchdogPetRedundant p counter petCounter s.driver s.monitor).2.2 ∧
      ∀ error, (systemMonitorWatchdogPetRedundant p counter petCounter s.driver s.monitor).1 =
        .watchdog error → error.errorCode ≠ errBaseOk := by
  obtain ⟨hrefused, hdriver⟩ :=
    WatchdogRun.hwWatchdogPet_of_ne_armed h.unarmed petCounter
  rw [systemMonitorWatchdogPetRedundant]
  split
  · exact ⟨rfl, .refl _, fun _ herror => PetResult.noConfusion herror⟩
  · simp only [if_neg hrefused]
    refine ⟨hdriver, ⟨id, get_set s.monitor.watchdogs 1 0 _, rfl⟩, ?_⟩
    rintro _ ⟨⟩
    exact hrefused

/-- The driver's initialisation does not arm it. -/
theorem Unpetted.state_init (h : s.Unpetted) (timeoutMs : UInt32) (selfTest : SystemError) :
    (hwWatchdogInit timeoutMs selfTest s.driver).2.state ≠ .armed := by
  obtain ⟨-, hsame⟩ | ⟨-, -, hcleared⟩ | ⟨-, -, hready⟩ :=
    WatchdogRun.hwWatchdogInit_cases timeoutMs selfTest s.driver
  · rw [hsame]
    exact h.unarmed
  · rw [hcleared]
    exact HwWatchdogState.noConfusion
  · rw [hready]
    exact HwWatchdogState.noConfusion

/-- An arming renews the time of the watchdog if the driver is initialised. -/
theorem Unpetted.arm (h : s.Unpetted) (selfTest : SystemError) (counter counter' : UInt64) :
    (s.step p setter (.arm selfTest counter counter')).2.Unpetted ∧
      (s.step p setter (.arm selfTest counter counter')).2.primary.timeoutCount =
        s.primary.timeoutCount ∧
      (s.step p setter (.arm selfTest counter counter')).2.monitor.primaryMode =
        s.monitor.primaryMode := by
  have hstate := h.state_init (s.monitor.watchdogs.get 0).timeoutMs selfTest
  have hsecond (m : SystemMonitor) (t : UInt64) :
      (m.arm 1 t).watchdogs.get 0 = m.watchdogs.get 0 := get_set m.watchdogs 1 0 _
  have hfirst (m : SystemMonitor) (t : UInt64) : (m.arm 0 t).watchdogs.get 0 =
      { m.watchdogs.get 0 with armed := true, lastPetTime := t } := get_set m.watchdogs 0 0 _
  simp only [step, systemMonitorWatchdogArmRedundant, h.initialized, Bool.true_eq_false, if_false]
  by_cases hok : (hwWatchdogInit (s.monitor.watchdogs.get 0).timeoutMs selfTest
      s.driver).1.errorCode = errBaseOk
  · simp only [if_pos hok]
    refine ⟨⟨?_, h.initialized, ?_, ?_⟩, ?_, rfl⟩
    · rw [setter.state_set]
      exact hstate
    · rw [primary, hsecond, hfirst]
      exact h.timeout
    · rw [primary, hsecond, hfirst]
    · rw [primary, hsecond, hfirst]
      rfl
  · simp only [if_neg hok]
    refine ⟨⟨hstate, h.initialized, ?_, ?_⟩, ?_, rfl⟩
    · rw [primary, hsecond]
      exact h.timeout
    · rw [primary, hsecond]
      exact h.since
    · rw [primary, hsecond]
      rfl

theorem Unpetted.step (h : s.Unpetted) (call : WatchdogsCall) :
    LeftAlone p s call (s.step p setter call).1 (s.step p setter call).2 ∧
      (s.step p setter call).2.Unpetted := by
  cases call with
  | arm selfTest counter counter' =>
      obtain ⟨hnext, hcount, hmode⟩ := h.arm p setter selfTest counter counter'
      have hlate : ¬ s.FindsLate p (.arm selfTest counter counter') :=
        fun ⟨_, hcounter, _⟩ => Option.not_mem_none _ hcounter
      refine ⟨⟨fun _ => WatchdogsReply.noConfusion, hnext.since, ?_, ?_⟩, hnext⟩
      · rw [if_neg hlate]
        exact hcount
      · rw [hmode]
        exact (or_iff_left fun hfound => hlate hfound.1).symm
  | pet counter petCounter =>
      obtain ⟨hdriver, hchecked, hrefused⟩ := h.pet p counter petCounter
      have hmonitor : (s.step p setter (.pet counter petCounter)).2 =
          { s with monitor := (systemMonitorWatchdogPetRedundant p counter petCounter s.driver
            s.monitor).2.2 } :=
        congrArg (fun driver => ({ s with driver, monitor := _ } : Watchdogs)) hdriver
      rw [hmonitor]
      refine ⟨h.leftAlone p (fun error herror => ?_) hchecked, h.of_checked hchecked⟩
      exact hrefused error (WatchdogsReply.petted.inj herror)
  | check counter =>
      have hchecked := checked_checkConsistency (systemMonitorGetSystemTimeUs p counter s.monitor)
        s.monitor
      exact ⟨h.leftAlone p (fun _ => WatchdogsReply.noConfusion) hchecked, h.of_checked hchecked⟩
  | update readings =>
      have hchecked := checked_update p readings s.monitor
      have hany : ((s.checkedAt p (.update readings)).any fun counter =>
          s.primary.late (systemMonitorGetSystemTimeUs p counter s.monitor)) = _ := Option.any_map
      refine ⟨h.leftAlone p (fun _ => WatchdogsReply.noConfusion) ?_, h.of_checked hchecked⟩
      rw [hany]
      exact hchecked
  | setRunning running =>
      have hchecked : Checked false s.monitor { s.monitor with running } := ⟨id, rfl, rfl⟩
      exact ⟨h.leftAlone p (fun _ => WatchdogsReply.noConfusion) hchecked, h.of_checked hchecked⟩

end Step

theorem unpetted_start {primary backup : MonitorError × UInt32}
    (h : (systemMonitorServiceInit primary backup .zero).1 = .none) :
    (start primary backup).Unpetted := by
  have hready : (start primary backup).monitor = _ := systemMonitorServiceInit_of_ok h
  refine ⟨HwWatchdogState.noConfusion, ?_, ?_, ?_⟩
  · rw [hready]
  · rw [Watchdogs.primary, hready]
    rfl
  · rw [Watchdogs.primary, hready]
    rfl

end Watchdogs

/-- **The primary watchdog is never petted**: from the initialisation of the
monitor on, whatever is called in whatever order, no pet of it is accepted and
its time is that of its last arming.  Every check, called or made by a health
update, that comes later than a timeout after that counts it late, and nothing
else does; such a check switches to a healthy backup, and the backup is never
left. -/
theorem primary_watchdog_never_petted (p : MonitorPlatform) (setter : CallbackSetter)
    {primary backup : MonitorError × UInt32}
    (h : (systemMonitorServiceInit primary backup .zero).1 = .none)
    (calls : List WatchdogsCall) :
    Always (total (Watchdogs.step p setter)) (Watchdogs.LeftAlone p)
      (Watchdogs.start primary backup) calls :=
  always_total (fun _ call hs => hs.step p setter call) (Watchdogs.unpetted_start h) calls

theorem HwWatchdog.state_id (w : HwWatchdog) : (id w).state = w.state := rfl

/-- A monitor on its two ports, armed at 1 ms, petted at 0.5 s, updated at 1.5 s
and checked at 2 s. -/
theorem primary_watchdog_never_petted_late :
    Always (total (Watchdogs.step oneMegahertz ⟨id, HwWatchdog.state_id⟩))
      (Watchdogs.LeftAlone oneMegahertz) (Watchdogs.start (.none, 1) (.none, 2))
      [.arm hwWatchdogOk 1000 1001, .setRunning true, .pet 500000 500001,
        .update ⟨1500000, 1500001, 1500002, 1500003, 1500004, 1501004⟩, .check 2000000] :=
  primary_watchdog_never_petted oneMegahertz ⟨id, HwWatchdog.state_id⟩ (by decide) _

end AutoMlos
