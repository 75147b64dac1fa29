import AutoMlos.Lib.CString
import AutoMlos.SystemErrors

/-!
# AutoMlos.KernelWatchdog

The watchdogs of the kernel's components (`lib/watchdog/watchdog.c`).

Components are registered at a level, up to eight of them, and a timeout names
a level.  The components are the first `component_count` entries of the array;
a level is any value of its type.  What `ipc_register_topic` answers is an
argument.
-/

namespace AutoMlos

open Lib

/-- `kernel_watchdog_state_t`. -/
inductive KernelWatchdogState where
  | disabled
  | armed
  | triggered
  deriving DecidableEq, Repr

/-- An entry of `components`. -/
structure WatchdogComponent where
  level : UInt32
  timeoutMs : UInt32
  componentName : CString
  state : KernelWatchdogState
  deriving DecidableEq, Repr

/-- `kernel_watchdog_ctx`. -/
structure KernelWatchdog where
  initialized : Bool
  components : List WatchdogComponent
  deriving DecidableEq, Repr

/-- The zeroed statics. -/
def KernelWatchdog.zero : KernelWatchdog := ⟨false, []⟩

/-- The size of the array `components`. -/
def maxWatchdogComponents : Nat := 8

/-- `MODULE_ID_WATCHDOG`. -/
def moduleIdWatchdog : UInt16 := 0x7000

/-- `watchdog_error_success`. -/
def watchdogErrorSuccess : SystemError := systemErrorCreate errSysOk .system .none moduleIdWatchdog

/-- `watchdog_error_already_initialized`. -/
def watchdogErrorAlreadyInitialized : SystemError :=
  systemErrorCreate errSysAlreadyInit .system .warning moduleIdWatchdog

/-- `watchdog_error_not_initialized`. -/
def watchdogErrorNotInitialized : SystemError :=
  systemErrorCreate errSysNotInit .system .medium moduleIdWatchdog

/-- `watchdog_error_resource_exhausted`. -/
def watchdogErrorResourceExhausted : SystemError :=
  systemErrorCreate errSysResourceUnavail .system .medium moduleIdWatchdog

/-- `watchdog_error_invalid_parameter`. -/
def watchdogErrorInvalidParameter : SystemError :=
  systemErrorCreate errSysInvalidParam .system .medium moduleIdWatchdog

/-- `kernel_watchdog_init`. -/
def kernelWatchdogInit (topicRegistered : SystemError) (w : KernelWatchdog) :
    SystemError × KernelWatchdog :=
  if w.initialized then (watchdogErrorAlreadyInitialized, w)
  else
    let w := { KernelWatchdog.zero with initialized := true }
    if topicRegistered.errorCode ≠ errBaseOk then (topicRegistered, { w with initialized := false })
    else (watchdogErrorSuccess, w)

/-- `kernel_watchdog_register`. -/
def kernelWatchdogRegister (level timeoutMs : UInt32) (componentName : CString)
    (w : KernelWatchdog) : SystemError × KernelWatchdog :=
  if ¬ w.initialized then (watchdogErrorNotInitialized, w)
  else if w.components.length ≥ maxWatchdogComponents then (watchdogErrorResourceExhausted, w)
  else if timeoutMs < 10 ∨ timeoutMs > 10000 then (watchdogErrorInvalidParameter, w)
  else
    let component : WatchdogComponent :=
      { level, timeoutMs, componentName := componentName.truncate 31, state := .disabled }
    (watchdogErrorSuccess, { w with components := w.components ++ [component] })

/-- The loop of `kernel_watchdog_timeout_handler`, which stops at the first
component of the level. -/
def triggerFirst (level : UInt32) : List WatchdogComponent → List WatchdogComponent
  | [] => []
  | component :: components =>
      if component.level = level then { component with state := .triggered } :: components
      else component :: triggerFirst level components

/-- `kernel_watchdog_timeout_handler`. -/
def kernelWatchdogTimeoutHandler (level : UInt32) (w : KernelWatchdog) : KernelWatchdog :=
  { w with components := triggerFirst level w.components }

/-! ## runs -/

/-- A call that changes the components. -/
inductive KernelWatchdogCall where
  | register (level timeoutMs : UInt32) (componentName : CString)
  | timeoutHandler (level : UInt32)
  deriving DecidableEq, Repr

/-- One call, with the error that a registration returns. -/
def KernelWatchdog.step (w : KernelWatchdog) :
    KernelWatchdogCall → Option SystemError × KernelWatchdog
  | .register level timeoutMs componentName =>
      let (error, w) := kernelWatchdogRegister level timeoutMs componentName w
      (some error, w)
  | .timeoutHandler level => (none, kernelWatchdogTimeoutHandler level w)

/-- A successful initialisation leaves no components. -/
theorem kernelWatchdogInit_of_ok {topicRegistered : SystemError} {w : KernelWatchdog}
    (h : (kernelWatchdogInit topicRegistered w).1.errorCode = errSysOk) :
    (kernelWatchdogInit topicRegistered w).2 = ⟨true, []⟩ := by
  unfold kernelWatchdogInit at h ⊢
  split at h
  · exact absurd h (show watchdogErrorAlreadyInitialized.errorCode ≠ errSysOk by decide)
  · next hinit =>
    rw [if_neg hinit]
    split at h
    · next hrefused => exact absurd h hrefused
    · next hok => simp only [if_neg hok, KernelWatchdog.zero]

/-- A registration is refused and changes nothing, or it appends a component
with an admitted timeout while there is room. -/
theorem kernelWatchdogRegister_cases (level timeoutMs : UInt32) (componentName : CString)
    (w : KernelWatchdog) :
    ((kernelWatchdogRegister level timeoutMs componentName w).1.errorCode ≠ errSysOk ∧
      (kernelWatchdogRegister level timeoutMs componentName w).2 = w) ∨
    (w.components.length < maxWatchdogComponents ∧ 10 ≤ timeoutMs ∧ timeoutMs ≤ 10000 ∧
      kernelWatchdogRegister level timeoutMs componentName w =
        (watchdogErrorSuccess,
          { w with components := w.components ++
              [⟨level, timeoutMs, componentName.truncate 31, .disabled⟩] })) := by
  unfold kernelWatchdogRegister
  split
  · exact .inl ⟨show watchdogErrorNotInitialized.errorCode ≠ errSysOk by decide, rfl⟩
  · split
    · exact .inl ⟨show watchdogErrorResourceExhausted.errorCode ≠ errSysOk by decide, rfl⟩
    · next hroom =>
      split
      · exact .inl ⟨show watchdogErrorInvalidParameter.errorCode ≠ errSysOk by decide, rfl⟩
      · next htimeout =>
        obtain ⟨hlow, hhigh⟩ := not_or.mp htimeout
        exact .inr ⟨Nat.lt_of_not_le hroom, UInt32.not_lt.mp hlow, UInt32.not_lt.mp hhigh, rfl⟩

end AutoMlos
