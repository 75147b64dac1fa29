import AutoMlos.Lib.Layout
import AutoMlos.SystemMonitor

/-!
# AutoMlos.SystemMonitor.Image

The bytes of `g_system_monitor_state`, and the self-health check on them.

The memory test of `perform_self_health_check` writes a 32-bit pattern through
a pointer to the state.  What the fields are then is a matter of the layout:
the image of the state is memory from address 0 on, with a `bool` of one byte,
true if it is not 0.  `monitorOf` reads the record of the service from an image,
and the check on the image is the check on the record
(`monitorOf_performSelfHealthCheckImage`), for either order of bytes.
-/

namespace AutoMlos

open Lib

/-! ## the layout -/

/-- The fields of `g_system_monitor_state`. -/
inductive MonitorField where
  | initialized
  | running
  | overallScore
  | componentScores (i : Fin 4)
  | lastHealthCheck
  | consecutiveFailures
  | primaryMonitorHealthy
  | secondaryMonitorHealthy
  | armed (i : Fin 2)
  | timeoutMs (i : Fin 2)
  | lastPetTime (i : Fin 2)
  | timeoutCount (i : Fin 2)
  | independent (i : Fin 2)
  | lastHeartbeatTime
  | lastCrossMonitorTime
  | lastSelfHealthCheckTime
  | monitorPort
  | backupMonitorPort
  | primaryMode
  | crossMonitorFailCount
  | selfHealthFailCount
  | crossMonitorHealthy
  | selfHealthHealthy
  deriving DecidableEq, Repr

/-- `struct system_health`. -/
def systemHealthType : CType MonitorField :=
  .struct
    [.scalar .overallScore 4,
      .array 4 fun i => .scalar (.componentScores i) 4,
      .scalar .lastHealthCheck 8,
      .scalar .consecutiveFailures 4,
      .scalar .primaryMonitorHealthy 1,
      .scalar .secondaryMonitorHealthy 1]

/-- `redundant_watchdog_t`. -/
def redundantWatchdogType (i : Fin 2) : CType MonitorField :=
  .struct
    [.scalar (.armed i) 1,
      .scalar (.timeoutMs i) 4,
      .scalar (.lastPetTime i) 8,
      .scalar (.timeoutCount i) 4,
      .scalar (.independent i) 1]

/-- The structure that `g_system_monitor_state` is. -/
def systemMonitorType : CType MonitorField :=
  .struct
    [.scalar .initialized 1,
      .scalar .running 1,
      systemHealthType,
      .array 2 redundantWatchdogType,
      .scalar .lastHeartbeatTime 8,
      .scalar .lastCrossMonitorTime 8,
      .scalar .lastSelfHealthCheckTime 8,
      .scalar .monitorPort 4,
      .scalar .backupMonitorPort 4,
      .scalar .primaryMode 1,
      .scalar .crossMonitorFailCount 1,
      .scalar .selfHealthFailCount 1,
      .scalar .crossMonitorHealthy 1,
      .scalar .selfHealthHealthy 1]

example : systemMonitorType.size = 136 := by decide

namespace MonitorField

/-- Where a field lies. -/
def region (f : MonitorField) : Region := systemMonitorType.place 0 f

/-- The fields whose type is `bool`. -/
def isBool : MonitorField → Bool
  | .initialized | .running | .primaryMonitorHealthy | .secondaryMonitorHealthy => true
  | .armed _ | .independent _ => true
  | .primaryMode | .crossMonitorHealthy | .selfHealthHealthy => true
  | _ => false

/-- Two fields share no byte. -/
theorem region_disjoint {f g : MonitorField} (h : f ≠ g) : f.region.Disjoint g.region :=
  CType.place_disjoint h

/-- The first word of the state. -/
def firstWord : Region := ⟨0, 4⟩

/-- The first word holds `initialized` and `running` and no other field. -/
theorem region_disjoint_firstWord {f : MonitorField} (hinit : f ≠ .initialized)
    (hrunning : f ≠ .running) : f.region.Disjoint firstWord := by
  cases f with
  | initialized => contradiction
  | running => contradiction
  | componentScores i => revert i; decide
  | armed i => revert i; decide
  | timeoutMs i => revert i; decide
  | lastPetTime i => revert i; decide
  | timeoutCount i => revert i; decide
  | independent i => revert i; decide
  | _ => decide

end MonitorField

/-! ## reading and writing fields -/

section Fields

variable (o : ByteOrder) (m : Nat → UInt8)

/-- The number that a field holds. -/
def loadField (f : MonitorField) : Nat := loadNat o m f.region

/-- A `bool` field. -/
def loadBool (f : MonitorField) : Bool := loadField o m f ≠ 0

/-- Write a number to a field. -/
def storeField (f : MonitorField) (n : Nat) : Nat → UInt8 := storeNat o m f.region n

/-- What a field is: a `bool` is 0 or 1, whatever its byte. -/
def fieldValue (f : MonitorField) : Nat :=
  if f.isBool then (loadBool o m f).toNat else loadField o m f

/-- The record of the service in an image. -/
def monitorOf : SystemMonitor where
  initialized := loadBool o m .initialized
  running := loadBool o m .running
  health :=
    { overallScore := UInt32.ofNat (loadField o m .overallScore)
      lastHealthCheck := UInt64.ofNat (loadField o m .lastHealthCheck)
      primaryMonitorHealthy := loadBool o m .primaryMonitorHealthy
      secondaryMonitorHealthy := loadBool o m .secondaryMonitorHealthy }
  watchdogs := Vector.ofFn fun i =>
    { armed := loadBool o m (.armed i)
      timeoutMs := UInt32.ofNat (loadField o m (.timeoutMs i))
      lastPetTime := UInt64.ofNat (loadField o m (.lastPetTime i))
      timeoutCount := UInt32.ofNat (loadField o m (.timeoutCount i))
      independent := loadBool o m (.independent i) }
  lastHeartbeatTime := UInt64.ofNat (loadField o m .lastHeartbeatTime)
  lastCrossMonitorTime := UInt64.ofNat (loadField o m .lastCrossMonitorTime)
  lastSelfHealthCheckTime := UInt64.ofNat (loadField o m .lastSelfHealthCheckTime)
  monitorPort := UInt32.ofNat (loadField o m .monitorPort)
  backupMonitorPort := UInt32.ofNat (loadField o m .backupMonitorPort)
  primaryMode := loadBool o m .primaryMode
  crossMonitorFailCount := UInt8.ofNat (loadField o m .crossMonitorFailCount)
  selfHealthFailCount := UInt8.ofNat (loadField o m .selfHealthFailCount)
  crossMonitorHealthy := loadBool o m .crossMonitorHealthy
  selfHealthHealthy := loadBool o m .selfHealthHealthy

/-! ## the check -/

/-- `test_pattern`. -/
def testPattern : Nat := 0xDEADBEEF

/-- `system_monitor_get_system_time_us`, with `initialized` in an image. -/
def imageTimeUs (p : MonitorPlatform) (counter : UInt64) : UInt64 :=
  if loadBool o m .initialized = false then 0 else counter * 1000000 / p.timerFrequency

end Fields

/-- The three tests of `perform_self_health_check`, on an image. -/
def selfTestImage (o : ByteOrder) (p : MonitorPlatform) (r : MonitorReadings)
    (m : Nat → UInt8) : Bool × (Nat → UInt8) :=
  let testStart := imageTimeUs o m p r.testStart
  let testEnd := imageTimeUs o m p r.testEnd
  let timerTestPassed : Bool := testEnd - testStart ≥ 900 ∧ testEnd - testStart ≤ 1100
  -- `test_addr` points to the state
  let m := storeNat o m MonitorField.firstWord testPattern
  let memoryTestPassed : Bool := loadNat o m MonitorField.firstWord = testPattern
  let ipcTestPassed : Bool :=
    if loadBool o m .initialized then
      UInt32.ofNat (loadField o m .monitorPort) ≠ p.ipcPortInvalid
    else true
  (timerTestPassed && memoryTestPassed && ipcTestPassed, m)

/-- `perform_self_health_check`, on an image. -/
def performSelfHealthCheckImage (o : ByteOrder) (p : MonitorPlatform) (r : MonitorReadings)
    (m : Nat → UInt8) : MonitorError × (Nat → UInt8) :=
  let currentTime := imageTimeUs o m p r.self
  if currentTime - UInt64.ofNat (loadField o m .lastSelfHealthCheckTime) <
      selfHealthCheckInterval then (.none, m)
  else
    let m := storeField o m .lastSelfHealthCheckTime currentTime.toNat
    let (selfTestPassed, m) := selfTestImage o p r m
    let failCount :=
      if selfTestPassed = false then UInt8.ofNat (loadField o m .selfHealthFailCount) + 1 else 0
    let m := storeField o m .selfHealthFailCount failCount.toNat
    let healthy : Bool :=
      UInt8.ofNat (loadField o m .selfHealthFailCount) < monitorDegradationThreshold
    let m := storeField o m .selfHealthHealthy healthy.toNat
    (if selfTestPassed then .none else .selfTestFailed, m)

/-! ## single writes -/

section Writes

variable (o : ByteOrder) (m : Nat → UInt8)

theorem loadField_storeField_self {f : MonitorField} {n : Nat} (h : n < 256 ^ f.region.size) :
    loadField o (storeField o m f n) f = n :=
  loadNat_storeNat_self o h

theorem loadField_storeField_of_ne {f g : MonitorField} {n : Nat} (h : g ≠ f) :
    loadField o (storeField o m f n) g = loadField o m g :=
  loadNat_storeNat_of_disjoint o (MonitorField.region_disjoint h)

/-- The memory test finds its pattern. -/
theorem loadNat_firstWord :
    loadNat o (storeNat o m MonitorField.firstWord testPattern) MonitorField.firstWord =
      testPattern :=
  loadNat_storeNat_self o (by decide)

/-- The memory test leaves every field but the first two. -/
theorem loadField_firstWord_of_ne {f : MonitorField} (hinit : f ≠ .initialized)
    (hrunning : f ≠ .running) :
    loadField o (storeNat o m MonitorField.firstWord testPattern) f = loadField o m f :=
  loadNat_storeNat_of_disjoint o (MonitorField.region_disjoint_firstWord hinit hrunning)

/-- The memory test leaves a byte of its pattern in each of the first two
fields, and none of them is 0 or 1. -/
theorem one_lt_loadField_firstWord {f : MonitorField} (h : f = .initialized ∨ f = .running) :
    1 < loadField o (storeNat o m MonitorField.firstWord testPattern) f := by
  rcases h with rfl | rfl <;> cases o <;> exact Nat.le_of_ble_eq_true rfl

/-- **The memory test** makes both of the first two fields true. -/
theorem loadBool_firstWord {f : MonitorField} (h : f = .initialized ∨ f = .running) :
    loadBool o (storeNat o m MonitorField.firstWord testPattern) f = true :=
  decide_eq_true (Nat.ne_zero_of_lt (one_lt_loadField_firstWord o m h))

theorem monitorOf_storeField_time (t : UInt64) :
    monitorOf o (storeField o m .lastSelfHealthCheckTime t.toNat) =
      { monitorOf o m with lastSelfHealthCheckTime := t } := by
  have hself : loadField o (storeField o m .lastSelfHealthCheckTime t.toNat)
      .lastSelfHealthCheckTime = t.toNat := loadField_storeField_self o m t.toNat_lt
  simp [monitorOf, loadBool, loadField_storeField_of_ne, hself]

theorem monitorOf_storeField_count (n : UInt8) :
    monitorOf o (storeField o m .selfHealthFailCount n.toNat) =
      { monitorOf o m with selfHealthFailCount := n } := by
  have hself : loadField o (storeField o m .selfHealthFailCount n.toNat)
      .selfHealthFailCount = n.toNat := loadField_storeField_self o m n.toNat_lt
  simp [monitorOf, loadBool, loadField_storeField_of_ne, hself]

theorem monitorOf_storeField_healthy (b : Bool) :
    monitorOf o (storeField o m .selfHealthHealthy b.toNat) =
      { monitorOf o m with selfHealthHealthy := b } := by
  have hself : loadField o (storeField o m .selfHealthHealthy b.toNat)
      .selfHealthHealthy = b.toNat :=
    loadField_storeField_self o m (Nat.lt_of_lt_of_le b.toNat_lt (by decide))
  simp [monitorOf, loadBool, loadField_storeField_of_ne, hself]

theorem monitorOf_firstWord :
    monitorOf o (storeNat o m MonitorField.firstWord testPattern) =
      { monitorOf o m with initialized := true, running := true } := by
  have hinit := loadBool_firstWord o m (Or.inl rfl)
  have hrunning := loadBool_firstWord o m (Or.inr rfl)
  simp only [monitorOf, hinit, hrunning]
  simp [loadBool, loadField_firstWord_of_ne]

/-! ## the record -/

/-- **The tests on an image** are the tests on its record. -/
theorem monitorOf_selfTestImage (p : MonitorPlatform) (r : MonitorReadings) :
    (selfTestImage o p r m).1 = (selfTest p r (monitorOf o m)).1 ∧
      monitorOf o (selfTestImage o p r m).2 = (selfTest p r (monitorOf o m)).2 := by
  refine ⟨?_, monitorOf_firstWord o m⟩
  have hinit := loadBool_firstWord o m (Or.inl rfl)
  have hport := loadField_firstWord_of_ne o m (f := .monitorPort) (by decide) (by decide)
  simp only [selfTestImage, loadNat_firstWord, hinit, hport]
  simp only [decide_true, if_true]
  rfl

/-- **The check on an image** is the check on its record. -/
theorem monitorOf_performSelfHealthCheckImage (p : MonitorPlatform) (r : MonitorReadings) :
    (performSelfHealthCheckImage o p r m).1 = (performSelfHealthCheck p r (monitorOf o m)).1 ∧
      monitorOf o (performSelfHealthCheckImage o p r m).2 =
        (performSelfHealthCheck p r (monitorOf o m)).2 := by
  have hcount (m : Nat → UInt8) : UInt8.ofNat (loadField o m .selfHealthFailCount) =
      (monitorOf o m).selfHealthFailCount := rfl
  have hlast : UInt64.ofNat (loadField o m .lastSelfHealthCheckTime) =
      (monitorOf o m).lastSelfHealthCheckTime := rfl
  have htime : systemMonitorGetSystemTimeUs p r.self (monitorOf o m) = imageTimeUs o m p r.self :=
    rfl
  obtain ⟨hpassed, htested⟩ := monitorOf_selfTestImage o
    (storeField o m .lastSelfHealthCheckTime (imageTimeUs o m p r.self).toNat) p r
  rw [monitorOf_storeField_time] at hpassed htested
  simp only [performSelfHealthCheckImage, performSelfHealthCheck, hlast, htime]
  split
  · exact ⟨rfl, rfl⟩
  · simp only [hcount, hpassed, monitorOf_storeField_count, monitorOf_storeField_healthy, htested,
      true_and]
    generalize selfTest p r _ = tested
    obtain ⟨passed, s⟩ := tested
    cases passed <;> rfl

end Writes

end AutoMlos
