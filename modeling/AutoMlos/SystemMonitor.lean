import AutoMlos.Lib.Run
import Mathlib.Algebra.Ring.Nat

/-!
# AutoMlos.SystemMonitor

The system monitor service (`services/system_monitor/system_monitor.c`): the
health update with its cross-monitoring and its self-health check.

Each check keeps the number of its consecutive failures in eight bits and is
healthy below three of them.  So a check that goes on failing is reported
unhealthy from its third failure on, until the 256th wraps the number around.

A call of `hw_timer_get_counter` takes its answer as input.  The frequency of
the timer, the result of `ipc_create_port` and `IPC_PORT_INVALID` come from
outside; the log calls and the delay change nothing that is read here.
-/

namespace AutoMlos

open Lib

/-- The `SYSTEM_ERROR_*` values; `ipc_create_port` has others. -/
inductive MonitorError where
  | none
  | alreadyInitialized
  | selfTestFailed
  | ipc (code : UInt32)
  deriving DecidableEq, Repr

/-- `SYSTEM_MONITOR_REDUNDANT_WATCHDOGS` is not 0. -/
instance redundantWatchdogsNeZero : NeZero 2 := ⟨Nat.succ_ne_zero 1⟩

/-- `redundant_watchdog_t`. -/
structure RedundantWatchdog where
  armed : Bool
  timeoutMs : UInt32
  lastPetTime : UInt64
  timeoutCount : UInt32
  independent : Bool
  deriving DecidableEq, Repr

/-- `struct system_health`, as far as it is used. -/
structure SystemHealth where
  overallScore : UInt32
  lastHealthCheck : UInt64
  primaryMonitorHealthy : Bool
  secondaryMonitorHealthy : Bool
  deriving DecidableEq, Repr

/-- `g_system_monitor_state`. -/
structure SystemMonitor where
  initialized : Bool
  running : Bool
  health : SystemHealth
  watchdogs : Vector RedundantWatchdog 2
  lastHeartbeatTime : UInt64
  lastCrossMonitorTime : UInt64
  lastSelfHealthCheckTime : UInt64
  monitorPort : UInt32
  backupMonitorPort : UInt32
  primaryMode : Bool
  crossMonitorFailCount : UInt8
  selfHealthFailCount : UInt8
  crossMonitorHealthy : Bool
  selfHealthHealthy : Bool
  deriving DecidableEq, Repr

/-- The zeroed state. -/
def SystemMonitor.zero : SystemMonitor where
  initialized := false
  running := false
  health := ⟨0, 0, false, false⟩
  watchdogs := Vector.replicate 2 ⟨false, 0, 0, 0, false⟩
  lastHeartbeatTime := 0
  lastCrossMonitorTime := 0
  lastSelfHealthCheckTime := 0
  monitorPort := 0
  backupMonitorPort := 0
  primaryMode := false
  crossMonitorFailCount := 0
  selfHealthFailCount := 0
  crossMonitorHealthy := false
  selfHealthHealthy := false

/-- `SYSTEM_MONITOR_WATCHDOG_TIMEOUT_MS`. -/
def systemMonitorWatchdogTimeoutMs : UInt32 := 1000

/-- `SYSTEM_MONITOR_HEARTBEAT_INTERVAL_MS * 2000`. -/
def heartbeatMargin : UInt64 := 200000

/-- `CROSS_MONITOR_INTERVAL_MS * 1000`. -/
def crossMonitorInterval : UInt64 := 100000

/-- `SELF_HEALTH_CHECK_INTERVAL_MS * 1000`. -/
def selfHealthCheckInterval : UInt64 := 1000000

/-- `MONITOR_DEGRADATION_THRESHOLD`. -/
def monitorDegradationThreshold : UInt8 := 3

/-- What the platform settles: the frequency of an initialised timer, and
`IPC_PORT_INVALID`. -/
structure MonitorPlatform where
  timerFrequency : UInt64
  timerFrequency_ne_zero : timerFrequency ≠ 0
  ipcPortInvalid : UInt32

/-- The counters that `hw_timer_get_counter` answers in one health update, in
the order of the calls. -/
structure MonitorReadings where
  current : UInt64
  cross : UInt64
  watchdog : UInt64
  self : UInt64
  testStart : UInt64
  testEnd : UInt64
  deriving DecidableEq, Repr

/-! ## the service -/

/-- `system_monitor_get_system_time_us`, for what the counter shows. -/
def systemMonitorGetSystemTimeUs (p : MonitorPlatform) (counter : UInt64) (s : SystemMonitor) :
    UInt64 :=
  if s.initialized = false then 0 else counter * 1000000 / p.timerFrequency

/-- `system_monitor_service_init`, with what the two calls of `ipc_create_port`
answer and store. -/
def systemMonitorServiceInit (primary backup : MonitorError × UInt32) (s : SystemMonitor) :
    MonitorError × SystemMonitor :=
  if s.initialized then (.alreadyInitialized, s)
  else
    let s : SystemMonitor :=
      { SystemMonitor.zero with
        watchdogs := Vector.ofFn fun i =>
          { armed := false
            timeoutMs := systemMonitorWatchdogTimeoutMs
            lastPetTime := 0
            timeoutCount := 0
            independent := i.val = 0 }
        health := ⟨100, 0, true, true⟩
        monitorPort := primary.2 }
    if primary.1 ≠ .none then (primary.1, s)
    else
      let s := { s with backupMonitorPort := backup.2 }
      if backup.1 ≠ .none then (backup.1, s)
      else (.none, { s with primaryMode := true, initialized := true })

/-- A watchdog has not been petted in time. -/
def RedundantWatchdog.late (w : RedundantWatchdog) (currentTime : UInt64) : Bool :=
  currentTime - w.lastPetTime > (w.timeoutMs * 1000).toUInt64

/-- `system_monitor_watchdog_check_consistency`. -/
def systemMonitorWatchdogCheckConsistency (currentTime : UInt64) (s : SystemMonitor) :
    MonitorError × SystemMonitor :=
  let primaryLate := (s.watchdogs.get 0).late currentTime
  let watchdogs := s.watchdogs.map fun w =>
    if w.late currentTime then { w with timeoutCount := w.timeoutCount + 1 } else w
  let primaryMode :=
    if primaryLate ∧ s.health.secondaryMonitorHealthy then false else s.primaryMode
  (.none, { s with watchdogs, primaryMode })

/-- `perform_cross_monitoring`. -/
def performCrossMonitoring (p : MonitorPlatform) (r : MonitorReadings) (s : SystemMonitor) :
    MonitorError × SystemMonitor :=
  let currentTime := systemMonitorGetSystemTimeUs p r.cross s
  if currentTime - s.lastCrossMonitorTime < crossMonitorInterval then (.none, s)
  else
    let s := { s with lastCrossMonitorTime := currentTime }
    let s :=
      if s.health.primaryMonitorHealthy ≠ s.health.secondaryMonitorHealthy then
        { s with crossMonitorFailCount := s.crossMonitorFailCount + 1 }
      else { s with crossMonitorFailCount := 0 }
    let (watchdogCheck, s) :=
      systemMonitorWatchdogCheckConsistency (systemMonitorGetSystemTimeUs p r.watchdog s) s
    let s :=
      if watchdogCheck ≠ .none then
        { s with crossMonitorFailCount := s.crossMonitorFailCount + 1 }
      else s
    (.none, { s with crossMonitorHealthy := s.crossMonitorFailCount < monitorDegradationThreshold })

/-- The three tests of `perform_self_health_check`.  The memory test writes its
pattern over `initialized` and `running`, which are not zero then, and reads
it back. -/
def selfTest (p : MonitorPlatform) (r : MonitorReadings) (s : SystemMonitor) :
    Bool × SystemMonitor :=
  let testStart := systemMonitorGetSystemTimeUs p r.testStart s
  let testEnd := systemMonitorGetSystemTimeUs p r.testEnd s
  let timerTestPassed : Bool := testEnd - testStart ≥ 900 ∧ testEnd - testStart ≤ 1100
  let s := { s with initialized := true, running := true }
  let memoryTestPassed := true
  let ipcTestPassed : Bool := if s.initialized then s.monitorPort ≠ p.ipcPortInvalid else true
  (timerTestPassed && memoryTestPassed && ipcTestPassed, s)

/-- `perform_self_health_check`. -/
def performSelfHealthCheck (p : MonitorPlatform) (r : MonitorReadings) (s : SystemMonitor) :
    MonitorError × SystemMonitor :=
  let currentTime := systemMonitorGetSystemTimeUs p r.self s
  if currentTime - s.lastSelfHealthCheckTime < selfHealthCheckInterval then (.none, s)
  else
    let s := { s with lastSelfHealthCheckTime := currentTime }
    let (selfTestPassed, s) := selfTest p r s
    let s :=
      if selfTestPassed = false then
        { s with selfHealthFailCount := s.selfHealthFailCount + 1 }
      else { s with selfHealthFailCount := 0 }
    (if selfTestPassed then .none else .selfTestFailed,
      { s with selfHealthHealthy := s.selfHealthFailCount < monitorDegradationThreshold })

/-- The score of `system_monitor_update_health_redundant`. -/
def SystemMonitor.overallScore (s : SystemMonitor) : UInt32 :=
  let primary := s.health.primaryMonitorHealthy
  let secondary := s.health.secondaryMonitorHealthy
  if primary ∧ secondary ∧ s.crossMonitorHealthy ∧ s.selfHealthHealthy then 100
  else if (primary ∨ secondary) ∧ s.selfHealthHealthy then 70
  else if s.selfHealthHealthy then 30
  else 0

/-- `system_monitor_update_health_redundant`. -/
def systemMonitorUpdateHealthRedundant (p : MonitorPlatform) (r : MonitorReadings)
    (s : SystemMonitor) : MonitorError × SystemMonitor :=
  let currentTime := systemMonitorGetSystemTimeUs p r.current s
  let (_, s) := performCrossMonitoring p r s
  let (selfHealthResult, s) := performSelfHealthCheck p r s
  let health :=
    { s.health with
      primaryMonitorHealthy := currentTime - s.lastHeartbeatTime ≤ heartbeatMargin
      secondaryMonitorHealthy := selfHealthResult = .none }
  let s := { s with health }
  let health :=
    { s.health with
      overallScore := s.overallScore
      lastHealthCheck := currentTime }
  (.none, { s with health })

/-- `system_monitor_is_reliable_for_safety`. -/
def systemMonitorIsReliableForSafety (s : SystemMonitor) : Bool :=
  s.selfHealthHealthy && (s.health.primaryMonitorHealthy || s.health.secondaryMonitorHealthy)

end AutoMlos
