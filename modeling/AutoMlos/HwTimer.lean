import AutoMlos.SystemErrors

/-!
# AutoMlos.HwTimer

The hardware timer driver (`platform/bsp/hw_timer.c`).

The platform counter has 32 bits; in free-running mode its overflow interrupt
adds the ticks of a period to `base_counter`, and `hw_timer_get_counter` adds
the two.

The platform's own functions are stubs in the source; here what the counter
shows and the result of `hw_timer_safety_self_test` are inputs.
-/

namespace AutoMlos

/-- `hw_timer_mode_t`. -/
inductive HwTimerMode where
  | periodic
  | oneshot
  | freeRunning
  deriving DecidableEq, Repr

/-- `g_hw_timer_state`; a callback of 0 is NULL. -/
structure HwTimer where
  initialized : Bool
  frequencyHz : UInt32
  mode : HwTimerMode
  callback : UInt64
  callbackContext : UInt64
  baseCounter : UInt64
  deriving DecidableEq, Repr

/-- The zeroed state. -/
def HwTimer.zero : HwTimer where
  initialized := false
  frequencyHz := 0
  mode := .periodic
  callback := 0
  callbackContext := 0
  baseCounter := 0

def hwTimerMaxFrequencyHz : UInt32 := 1000000
def hwTimerMinFrequencyHz : UInt32 := 1000

/-! ## the driver -/

/-- What the driver answers when all went well. -/
def hwTimerOk : SystemError := systemErrorCreate errSysOk .system .low moduleIdHwTimer

/-- `hw_timer_platform_init`, a stub. -/
def hwTimerPlatformInit (_frequencyHz : UInt32) (_mode : HwTimerMode) : SystemError := hwTimerOk

/-- `hw_timer_init`, with the result of the self-test. -/
def hwTimerInit (frequencyHz : UInt32) (mode : HwTimerMode) (selfTest : SystemError)
    (t : HwTimer) : SystemError × HwTimer :=
  if t.initialized then
    (systemErrorCreate errSysAlreadyInit .system .medium moduleIdHwTimer, t)
  else if frequencyHz < hwTimerMinFrequencyHz ∨ frequencyHz > hwTimerMaxFrequencyHz then
    (systemErrorCreate errSysInvalidParam .system .high moduleIdHwTimer, t)
  else
    let t := { HwTimer.zero with frequencyHz, mode }
    let error := hwTimerPlatformInit frequencyHz mode
    if error.errorCode ≠ errSysOk then (error, t)
    else if selfTest.errorCode ≠ errSysOk then (selfTest, t)
    else (hwTimerOk, { t with initialized := true })

/-- `hw_timer_get_counter`, with what the platform counter shows. -/
def HwTimer.getCounter (platformCounter : UInt64) (t : HwTimer) : UInt64 :=
  if t.initialized = false then 0 else platformCounter + t.baseCounter

/-- `hw_timer_get_frequency`. -/
def hwTimerGetFrequency (t : HwTimer) : UInt64 :=
  if t.initialized then t.frequencyHz.toUInt64 else 0

/-- `hw_timer_set_interrupt_callback`. -/
def hwTimerSetInterruptCallback (callback context : UInt64) (t : HwTimer) :
    SystemError × HwTimer :=
  if t.initialized = false then
    (systemErrorCreate errSysNotInit .system .high moduleIdHwTimer, t)
  else (hwTimerOk, { t with callback, callbackContext := context })

/-- `hw_timer_interrupt_handler`, with the callback it calls and its context. -/
def hwTimerInterruptHandler (t : HwTimer) : Option (UInt64 × UInt64) × HwTimer :=
  let called :=
    if t.initialized ∧ t.callback ≠ 0 then some (t.callback, t.callbackContext) else none
  let t :=
    if t.mode = .freeRunning then { t with baseCounter := t.baseCounter + (1 : UInt64) <<< 32 }
    else t
  (called, t)

/-- A successful `hw_timer_init` leaves the zeroed timer in its mode. -/
theorem hwTimerInit_of_ok {frequencyHz : UInt32} {mode : HwTimerMode} {selfTest : SystemError}
    {t : HwTimer} (h : (hwTimerInit frequencyHz mode selfTest t).1.errorCode = errSysOk) :
    (hwTimerInit frequencyHz mode selfTest t).2 =
      { HwTimer.zero with frequencyHz, mode, initialized := true } := by
  have hplatform : (hwTimerPlatformInit frequencyHz mode).errorCode = errSysOk := rfl
  simp only [hwTimerInit] at h ⊢
  split at h
  · exact absurd h (by decide : errSysAlreadyInit ≠ errSysOk)
  · next hfresh =>
    rw [if_neg hfresh]
    split at h
    · exact absurd h (by decide : errSysInvalidParam ≠ errSysOk)
    · next hfrequency =>
      rw [if_neg (not_not_intro hplatform)] at h
      rw [if_neg hfrequency, if_neg (not_not_intro hplatform)]
      split at h
      · next hfailed => exact absurd h hfailed
      · next hpassed => rw [if_neg hpassed]

/-- In free-running mode the handler counts the base up. -/
theorem hwTimerInterruptHandler_of_freeRunning {t : HwTimer} (h : t.mode = .freeRunning) :
    (hwTimerInterruptHandler t).2 =
      { t with baseCounter := t.baseCounter + (1 : UInt64) <<< 32 } := by
  unfold hwTimerInterruptHandler
  rw [if_pos h]

end AutoMlos
