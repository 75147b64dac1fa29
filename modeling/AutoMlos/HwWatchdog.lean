import AutoMlos.Lib.Run
import AutoMlos.SystemErrors

/-!
# AutoMlos.HwWatchdog

The hardware watchdog driver (`platform/bsp/hw_watchdog.c`).

A pet is accepted in the state `ARMED` only, and no function of the driver
enters it: `hw_watchdog_init` leaves the watchdog `DISABLED` and the timeout
handler sets `TRIGGERED`.  So every pet is refused, whatever came before it.

The platform hooks are the stubs of the source, which always succeed.  The
result of `hw_watchdog_safety_self_test` and the timer counter are inputs.
-/

namespace AutoMlos

open Lib

/-- `hw_watchdog_state_t`. -/
inductive HwWatchdogState where
  | disabled
  | armed
  | triggered
  | fault
  deriving DecidableEq, Repr

/-- `g_hw_watchdog_state`; a callback of 0 is NULL. -/
structure HwWatchdog where
  initialized : Bool
  timeoutMs : UInt32
  state : HwWatchdogState
  timeoutCallback : UInt64
  timeoutCallbackContext : UInt64
  lastPetTime : UInt64
  deriving DecidableEq, Repr

/-- The zeroed state. -/
def HwWatchdog.zero : HwWatchdog where
  initialized := false
  timeoutMs := 0
  state := .disabled
  timeoutCallback := 0
  timeoutCallbackContext := 0
  lastPetTime := 0

def hwWatchdogMinTimeoutMs : UInt32 := 10
def hwWatchdogMaxTimeoutMs : UInt32 := 10000

/-! ## platform hooks -/

/-- What the driver answers when all went well. -/
def hwWatchdogOk : SystemError := systemErrorCreate errBaseOk .success .low moduleIdHwWatchdog

/-- `hw_watchdog_platform_init`, a stub. -/
def hwWatchdogPlatformInit (_timeoutMs : UInt32) : SystemError := hwWatchdogOk

/-- `hw_watchdog_platform_pet`, a stub. -/
def hwWatchdogPlatformPet : SystemError := hwWatchdogOk

/-! ## the driver -/

/-- `hw_watchdog_init`, with the result of the self-test. -/
def hwWatchdogInit (timeoutMs : UInt32) (selfTest : SystemError) (w : HwWatchdog) :
    SystemError × HwWatchdog :=
  if w.initialized then
    (systemErrorCreate errSysAlreadyInit .system .high moduleIdHwWatchdog, w)
  else if timeoutMs < hwWatchdogMinTimeoutMs ∨ timeoutMs > hwWatchdogMaxTimeoutMs then
    (systemErrorCreate errSysInvalidParam .system .high moduleIdHwWatchdog, w)
  else
    let w := { HwWatchdog.zero with timeoutMs, state := .disabled }
    let error := hwWatchdogPlatformInit timeoutMs
    if error.errorCode ≠ errBaseOk then (error, w)
    else if selfTest.errorCode ≠ errBaseOk then (selfTest, w)
    else (hwWatchdogOk, { w with initialized := true })

/-- `hw_watchdog_pet`, with what `hw_timer_get_counter` answers. -/
def hwWatchdogPet (counter : UInt64) (w : HwWatchdog) : SystemError × HwWatchdog :=
  if w.initialized = false then
    (systemErrorCreate errSysNotInitialized .system .high moduleIdHwWatchdog, w)
  else if w.state ≠ .armed then
    (systemErrorCreate errBaseInvalidSize .system .medium moduleIdHwWatchdog, w)
  else
    let error := hwWatchdogPlatformPet
    if error.errorCode = errBaseOk then (error, { w with lastPetTime := counter })
    else (error, w)

/-- `hw_watchdog_timeout_handler`, with the callback it calls and its context. -/
def hwWatchdogTimeoutHandler (w : HwWatchdog) : Option (UInt64 × UInt64) × HwWatchdog :=
  if w.initialized then
    let w := { w with state := .triggered }
    if w.timeoutCallback ≠ 0 then (some (w.timeoutCallback, w.timeoutCallbackContext), w)
    else (none, w)
  else (none, w)

/-! ## runs -/

/-- A call into the driver. -/
inductive WatchdogCall where
  | init (timeoutMs : UInt32) (selfTest : SystemError)
  | pet (counter : UInt64)
  | timeoutHandler
  deriving DecidableEq, Repr

/-- What a call answers. -/
inductive WatchdogReply where
  | error (error : SystemError)
  | handled (callback : Option (UInt64 × UInt64))
  deriving DecidableEq, Repr

/-- The call was successful. -/
def WatchdogReply.IsOk : WatchdogReply → Prop
  | .error e => e.errorCode = errBaseOk
  | .handled _ => True

instance : ∀ r : WatchdogReply, Decidable r.IsOk
  | .error e => inferInstanceAs (Decidable (e.errorCode = errBaseOk))
  | .handled _ => instDecidableTrue

/-- The driver, and whether it is in service: a `hw_watchdog_init` was
successful and no timeout has been handled since. -/
structure WatchdogRun where
  driver : HwWatchdog
  inService : Bool
  deriving DecidableEq, Repr

namespace WatchdogRun

/-- The start of a run. -/
def start : WatchdogRun where
  driver := .zero
  inService := false

/-- One call. -/
def step (r : WatchdogRun) : WatchdogCall → WatchdogReply × WatchdogRun
  | .init timeoutMs selfTest =>
      let (error, driver) := hwWatchdogInit timeoutMs selfTest r.driver
      let inService := if error.errorCode = errBaseOk then true else r.inService
      (.error error, { driver, inService })
  | .pet counter =>
      let (error, driver) := hwWatchdogPet counter r.driver
      (.error error, { r with driver })
  | .timeoutHandler =>
      let (callback, driver) := hwWatchdogTimeoutHandler r.driver
      (.handled callback, { driver, inService := false })

/-- What keeps every pet from success: the watchdog is never armed, and it is
in service exactly while it is initialised and `DISABLED`. -/
structure Unarmed (r : WatchdogRun) : Prop where
  state_eq : r.driver.state = .disabled ∨ r.driver.state = .triggered
  inService_iff : r.inService = true ↔ r.driver.initialized = true ∧ r.driver.state = .disabled

variable {r : WatchdogRun}

theorem unarmed_start : start.Unarmed := ⟨.inl rfl, by decide⟩

theorem Unarmed.ne_armed (h : r.Unarmed) : r.driver.state ≠ .armed := by
  obtain hstate | hstate := h.state_eq <;> simp [hstate]

/-- An initialisation fails and leaves a driver alone or uninitialised, or it
succeeds and the driver is `DISABLED`. -/
theorem hwWatchdogInit_cases (timeoutMs : UInt32) (selfTest : SystemError) (w : HwWatchdog) :
    ((hwWatchdogInit timeoutMs selfTest w).1.errorCode ≠ errBaseOk ∧
      (hwWatchdogInit timeoutMs selfTest w).2 = w) ∨
    (w.initialized = false ∧ (hwWatchdogInit timeoutMs selfTest w).1.errorCode ≠ errBaseOk ∧
      (hwWatchdogInit timeoutMs selfTest w).2 = { HwWatchdog.zero with timeoutMs }) ∨
    (w.initialized = false ∧ (hwWatchdogInit timeoutMs selfTest w).1 = hwWatchdogOk ∧
      (hwWatchdogInit timeoutMs selfTest w).2 =
        { HwWatchdog.zero with timeoutMs, initialized := true }) := by
  have hplatform : (hwWatchdogPlatformInit timeoutMs).errorCode = errBaseOk := rfl
  simp only [hwWatchdogInit]
  split
  · exact .inl ⟨(by decide : errSysAlreadyInit ≠ errBaseOk), rfl⟩
  · next hfresh =>
    rw [Bool.not_eq_true] at hfresh
    split
    · exact .inl ⟨(by decide : errSysInvalidParam ≠ errBaseOk), rfl⟩
    · rw [if_neg (not_not_intro hplatform)]
      split
      · next hfailed => exact .inr (.inl ⟨hfresh, hfailed, rfl⟩)
      · exact .inr (.inr ⟨hfresh, rfl, rfl⟩)

/-- A pet of a driver that is not armed fails and changes nothing. -/
theorem hwWatchdogPet_of_ne_armed {w : HwWatchdog} (h : w.state ≠ .armed) (counter : UInt64) :
    (hwWatchdogPet counter w).1.errorCode ≠ errBaseOk ∧ (hwWatchdogPet counter w).2 = w := by
  rw [hwWatchdogPet, if_pos h]
  split
  · exact ⟨(by decide : errSysNotInitialized ≠ errBaseOk), rfl⟩
  · exact ⟨(by decide : errBaseInvalidSize ≠ errBaseOk), rfl⟩

theorem Unarmed.init (h : r.Unarmed) (timeoutMs : UInt32) (selfTest : SystemError) :
    (r.step (.init timeoutMs selfTest)).2.Unarmed := by
  have hout (hfresh : r.driver.initialized = false) : r.inService = false := by
    rw [← Bool.not_eq_true, h.inService_iff, hfresh]
    simp
  simp only [step]
  obtain ⟨hfailed, hsame⟩ | ⟨hfresh, hfailed, hcleared⟩ | ⟨_, hok, hready⟩ :=
    hwWatchdogInit_cases timeoutMs selfTest r.driver
  · rw [hsame, if_neg hfailed]
    exact h
  · rw [hcleared, if_neg hfailed, hout hfresh]
    exact ⟨.inl rfl, iff_of_false Bool.false_ne_true fun h => Bool.false_ne_true h.1⟩
  · rw [hready, hok]
    exact ⟨.inl rfl, iff_of_true rfl ⟨rfl, rfl⟩⟩

theorem Unarmed.pet (h : r.Unarmed) (counter : UInt64) : (r.step (.pet counter)).2.Unarmed := by
  simp only [step]
  rw [(hwWatchdogPet_of_ne_armed h.ne_armed counter).2]
  exact h

theorem Unarmed.timeoutHandler (h : r.Unarmed) : (r.step .timeoutHandler).2.Unarmed := by
  simp only [step, hwWatchdogTimeoutHandler]
  split
  · split <;> exact ⟨.inr rfl, by simp⟩
  · next hfresh =>
    exact ⟨h.state_eq, by simp [hfresh]⟩

/-- **No call arms the watchdog.** -/
theorem Unarmed.step (h : r.Unarmed) (call : WatchdogCall) : (r.step call).2.Unarmed := by
  cases call with
  | init timeoutMs selfTest => exact h.init timeoutMs selfTest
  | pet counter => exact h.pet counter
  | timeoutHandler => exact h.timeoutHandler

end WatchdogRun

/-! ## the life cycle -/

/-- A pet in service is answered `ERR_BASE_OK` and notes the time; a pet out
of service is refused. -/
def PetServed (r : WatchdogRun) (call : WatchdogCall) (reply : WatchdogReply)
    (r' : WatchdogRun) : Prop :=
  match call with
  | .pet counter =>
      (r.inService = true → reply.IsOk ∧ r'.driver.lastPetTime = counter) ∧
        (reply.IsOk → r.inService = true)
  | _ => True

instance (r : WatchdogRun) (call : WatchdogCall) (reply : WatchdogReply) (r' : WatchdogRun) :
    Decidable (PetServed r call reply r') := by
  cases call <;> unfold PetServed <;> infer_instance

/-- A pet is made only while the watchdog is not initialised or `TRIGGERED`. -/
def PetOutOfService (r : WatchdogRun) (call : WatchdogCall) : Prop :=
  match call with
  | .pet _ => r.driver.initialized = false ∨ r.driver.state = .triggered
  | _ => True

namespace WatchdogRun

/-- No pet is ever successful. -/
theorem Unarmed.not_isOk_pet {r : WatchdogRun} (h : r.Unarmed) (counter : UInt64) :
    ¬ (r.step (.pet counter)).1.IsOk :=
  (hwWatchdogPet_of_ne_armed h.ne_armed counter).1

/-- So a pet is served exactly if it is not to succeed. -/
theorem Unarmed.petServed_iff {r : WatchdogRun} (h : r.Unarmed) (call : WatchdogCall) :
    PetServed r call (r.step call).1 (r.step call).2 ↔ PetOutOfService r call := by
  cases call with
  | init timeoutMs selfTest => exact Iff.rfl
  | timeoutHandler => exact Iff.rfl
  | pet counter =>
      have hrefused := h.not_isOk_pet counter
      have hout : r.inService ≠ true ↔
          r.driver.initialized = false ∨ r.driver.state = .triggered := by
        rw [ne_eq, h.inService_iff, not_and_or, Bool.not_eq_true]
        refine or_congr_right ?_
        obtain hstate | hstate := h.state_eq <;> simp [hstate]
      rw [PetOutOfService, ← hout, PetServed]
      simp [hrefused]

end WatchdogRun

/-- **The watchdog is petted as its life cycle promises** in a run if and only
if every pet comes before a successful `hw_watchdog_init` or after a timeout,
when it has to be refused. -/
theorem pet_served_iff (calls : List WatchdogCall) :
    Always (total WatchdogRun.step) PetServed .start calls ↔
      Always (total WatchdogRun.step) (fun r call _ _ => PetOutOfService r call) .start calls :=
  always_total_iff_always (fun r call (h : r.Unarmed) =>
    ⟨h.petServed_iff call, fun _ => h.step call⟩) WatchdogRun.unarmed_start calls

/-- A watchdog is initialised and petted. -/
def initThenPet : List WatchdogCall := [.init 1000 hwWatchdogOk, .pet 5]

/-- The pet is refused, although the watchdog is in service. -/
theorem pet_not_always_served :
    ¬ Always (total WatchdogRun.step) PetServed .start initThenPet := by
  decide

end AutoMlos
