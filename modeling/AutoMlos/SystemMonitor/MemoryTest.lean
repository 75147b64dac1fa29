import AutoMlos.HwWatchdog
import AutoMlos.SystemMonitor.FalseAlarm
import AutoMlos.SystemMonitor.Image

/-!
# AutoMlos.SystemMonitor.MemoryTest

What the memory test does to the fields of the monitor.

Its pattern covers the first four bytes of the state: `initialized`, `running`
and two bytes of padding.  So a check that is due leaves both fields true
(`loadBool_of_due`), keeps every field that is not its own
(`loadField_performSelfHealthCheckImage`), and sets a service running that
was not.
-/

namespace AutoMlos

open Lib

/-! ## petting -/

/-- What `system_monitor_watchdog_pet_redundant` answers: `SYSTEM_ERROR_NOT_RUNNING`,
or the result of `hw_watchdog_pet`. -/
inductive PetResult where
  | notRunning
  | watchdog (error : SystemError)
  deriving DecidableEq, Repr

/-- `last_pet_time = current_time` of a watchdog. -/
def SystemMonitor.petted (s : SystemMonitor) (i : Fin 2) (currentTime : UInt64) : SystemMonitor :=
  { s with watchdogs :=
      s.watchdogs.set i { s.watchdogs.get i with lastPetTime := currentTime } i.isLt }

/-- `system_monitor_watchdog_pet_redundant`, with the hardware watchdog and the
counters that the service and `hw_watchdog_pet` read. -/
def systemMonitorWatchdogPetRedundant (p : MonitorPlatform) (counter petCounter : UInt64)
    (w : HwWatchdog) (s : SystemMonitor) : PetResult × HwWatchdog × SystemMonitor :=
  if s.running = false then (.notRunning, w, s)
  else
    let currentTime := systemMonitorGetSystemTimeUs p counter s
    let (ret, w) := hwWatchdogPet petCounter w
    let s := if ret.errorCode = errBaseOk then s.petted 0 currentTime else s
    (.watchdog ret, w, s.petted 1 currentTime)

/-- A pet is refused exactly if the service is not running, and then nothing
is changed. -/
theorem systemMonitorWatchdogPetRedundant_refuses_iff (p : MonitorPlatform)
    (counter petCounter : UInt64) (w : HwWatchdog) (s : SystemMonitor) :
    systemMonitorWatchdogPetRedundant p counter petCounter w s = (.notRunning, w, s) ↔
      s.running = false := by
  rw [systemMonitorWatchdogPetRedundant]
  split
  · next hstopped => exact iff_of_true rfl hstopped
  · next hrunning =>
    refine iff_of_false (fun h => ?_) hrunning
    exact PetResult.noConfusion (congrArg Prod.fst h)

/-! ## the frame of the check -/

/-- The fields that the self-health check keeps its own state in. -/
def MonitorField.IsSelfHealth (f : MonitorField) : Prop :=
  f = .lastSelfHealthCheckTime ∨ f = .selfHealthFailCount ∨ f = .selfHealthHealthy

section Check

variable (o : ByteOrder) (p : MonitorPlatform) (r : MonitorReadings) (m : Nat → UInt8)

/-- A check that is not due does nothing. -/
theorem performSelfHealthCheckImage_of_early (h : ¬ (monitorOf o m).SelfDue p r) :
    performSelfHealthCheckImage o p r m = (.none, m) :=
  if_pos (UInt64.not_le.mp h)

/-- A check that is due writes its fields, and the pattern over the first word. -/
theorem performSelfHealthCheckImage_of_due (h : (monitorOf o m).SelfDue p r) :
    ∃ (t : UInt64) (n : UInt8) (healthy : Bool),
      (performSelfHealthCheckImage o p r m).2 =
        storeField o
          (storeField o
            (storeNat o (storeField o m .lastSelfHealthCheckTime t.toNat) MonitorField.firstWord
              testPattern)
            .selfHealthFailCount n.toNat)
          .selfHealthHealthy healthy.toNat :=
  ⟨_, _, _, congrArg Prod.snd (if_neg (UInt64.not_lt.mpr h))⟩

/-- **The frame of the check**: a field that is neither its own nor in the first
word keeps its number. -/
theorem loadField_performSelfHealthCheckImage {f : MonitorField} (hself : ¬ f.IsSelfHealth)
    (hinit : f ≠ .initialized) (hrunning : f ≠ .running) :
    loadField o (performSelfHealthCheckImage o p r m).2 f = loadField o m f := by
  simp only [MonitorField.IsSelfHealth, not_or] at hself
  obtain ⟨htime, hcount, hhealthy⟩ := hself
  by_cases hdue : (monitorOf o m).SelfDue p r
  · obtain ⟨t, n, healthy, heq⟩ := performSelfHealthCheckImage_of_due o p r m hdue
    rw [heq, loadField_storeField_of_ne o _ hhealthy, loadField_storeField_of_ne o _ hcount,
      loadField_firstWord_of_ne o _ hinit hrunning, loadField_storeField_of_ne o _ htime]
  · rw [performSelfHealthCheckImage_of_early o p r m hdue]

/-- The bytes of the first two fields after the check are none that a `bool` is
given. -/
theorem one_lt_loadField_of_due {f : MonitorField} (h : (monitorOf o m).SelfDue p r)
    (hf : f = .initialized ∨ f = .running) :
    1 < loadField o (performSelfHealthCheckImage o p r m).2 f := by
  have hcount : f ≠ .selfHealthFailCount := by rcases hf with rfl | rfl <;> decide
  have hhealthy : f ≠ .selfHealthHealthy := by rcases hf with rfl | rfl <;> decide
  obtain ⟨t, n, healthy, heq⟩ := performSelfHealthCheckImage_of_due o p r m h
  rw [heq, loadField_storeField_of_ne o _ hhealthy, loadField_storeField_of_ne o _ hcount]
  exact one_lt_loadField_firstWord o _ hf

/-- **The first word after the check**: both of its fields are true. -/
theorem loadBool_of_due {f : MonitorField} (h : (monitorOf o m).SelfDue p r)
    (hf : f = .initialized ∨ f = .running) :
    loadBool o (performSelfHealthCheckImage o p r m).2 f = true :=
  decide_eq_true (Nat.ne_zero_of_lt (one_lt_loadField_of_due o p r m h hf))

/-- A field that is neither the check's own nor in the first word keeps its
value. -/
theorem fieldValue_performSelfHealthCheckImage {f : MonitorField} (hself : ¬ f.IsSelfHealth)
    (hinit : f ≠ .initialized) (hrunning : f ≠ .running) :
    fieldValue o (performSelfHealthCheckImage o p r m).2 f = fieldValue o m f := by
  simp only [fieldValue, loadBool,
    loadField_performSelfHealthCheckImage o p r m hself hinit hrunning]

/-- A field of the first word keeps its value over a check that is due exactly
if it is true. -/
theorem fieldValue_of_due_iff {f : MonitorField} (h : (monitorOf o m).SelfDue p r)
    (hf : f = .initialized ∨ f = .running) :
    fieldValue o (performSelfHealthCheckImage o p r m).2 f = fieldValue o m f ↔
      loadBool o m f = true := by
  have hbool : f.isBool = true := by rcases hf with rfl | rfl <;> rfl
  rw [fieldValue, fieldValue, if_pos hbool, if_pos hbool, loadBool_of_due o p r m h hf]
  cases loadBool o m f <;> decide

end Check

/-- What the self-health check should leave: every field that is not its own,
and the refusal to pet of a service that is not running. -/
structure LeavesMonitor (o : ByteOrder) (p : MonitorPlatform) (m m' : Nat → UInt8) : Prop where
  fields : ∀ f : MonitorField, ¬ f.IsSelfHealth → fieldValue o m' f = fieldValue o m f
  stopped : (monitorOf o m).running = false → (monitorOf o m').running = false
  refuses : (monitorOf o m).running = false → ∀ counter petCounter w,
    systemMonitorWatchdogPetRedundant p counter petCounter w (monitorOf o m') =
      (.notRunning, w, monitorOf o m')

/-- **The self-test leaves the state alone** exactly if it is not due, or the
service is initialised and running already. -/
theorem self_test_leaves_state_iff (o : ByteOrder) (p : MonitorPlatform) (r : MonitorReadings)
    (m : Nat → UInt8) :
    LeavesMonitor o p m (performSelfHealthCheckImage o p r m).2 ↔
      ((monitorOf o m).SelfDue p r →
        (monitorOf o m).initialized = true ∧ (monitorOf o m).running = true) := by
  constructor
  · intro h hdue
    have hinit := h.fields .initialized (by simp [MonitorField.IsSelfHealth])
    have hrunning := h.fields .running (by simp [MonitorField.IsSelfHealth])
    exact ⟨(fieldValue_of_due_iff o p r m hdue (Or.inl rfl)).mp hinit,
      (fieldValue_of_due_iff o p r m hdue (Or.inr rfl)).mp hrunning⟩
  · intro h
    have hstopped (hstop : (monitorOf o m).running = false) :
        (monitorOf o (performSelfHealthCheckImage o p r m).2).running = false := by
      have hearly : ¬ (monitorOf o m).SelfDue p r := fun hdue => by simp [(h hdue).2] at hstop
      rwa [performSelfHealthCheckImage_of_early o p r m hearly]
    refine ⟨fun f hself => ?_, hstopped, fun hstop counter petCounter w => ?_⟩
    · by_cases hfirst : f = .initialized ∨ f = .running
      · by_cases hdue : (monitorOf o m).SelfDue p r
        · rw [fieldValue_of_due_iff o p r m hdue hfirst]
          rcases hfirst with rfl | rfl
          · exact (h hdue).1
          · exact (h hdue).2
        · rw [performSelfHealthCheckImage_of_early o p r m hdue]
      · obtain ⟨hinit, hrunning⟩ := not_or.mp hfirst
        exact fieldValue_performSelfHealthCheckImage o p r m hself hinit hrunning
    · exact (systemMonitorWatchdogPetRedundant_refuses_iff p _ _ w _).mpr (hstopped hstop)

/-- An image with numbers in some of its fields and zeros elsewhere. -/
def imageOf (fields : List (MonitorField × Nat)) : Nat → UInt8 :=
  fields.foldl (fun m (f, n) => storeField .little m f n) fun _ => 0

/-- The image of the monitor with both its ports. -/
def readyImage : Nat → UInt8 :=
  imageOf
    [(.initialized, 1), (.overallScore, 100), (.primaryMonitorHealthy, 1),
      (.secondaryMonitorHealthy, 1), (.timeoutMs 0, 1000), (.timeoutMs 1, 1000),
      (.independent 0, 1), (.monitorPort, 1), (.backupMonitorPort, 2), (.primaryMode, 1)]

example : monitorOf .little readyImage = monitorReady := by decide +kernel

/-- The first self-test of a service that is not running. -/
theorem self_test_not_always_leaves_state :
    ¬ ∀ (o : ByteOrder) (p : MonitorPlatform) (r : MonitorReadings) (m : Nat → UInt8),
      LeavesMonitor o p m (performSelfHealthCheckImage o p r m).2 := by
  intro h
  have hleaves := h .little oneMegahertz
    ⟨1000000, 1000000, 1000000, 1000000, 1000000, 1001000⟩ readyImage
  have hrunning := hleaves.stopped (by decide +kernel)
  revert hrunning
  decide +kernel

end AutoMlos
