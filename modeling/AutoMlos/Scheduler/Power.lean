import AutoMlos.Lib.Run
import AutoMlos.Scheduler.Table

/-!
# AutoMlos.Scheduler.Power

The power management of the scheduler: the first definition of
`scheduler_use_idle_process`.

While the idle pid is current, idle time is accumulated, and beyond one and
five seconds the function goes to a deeper power mode.  Each of the two
branches only asks whether the mode is its own.  So a call that finds more
than five seconds after one that did goes through the low power mode again.
-/

namespace AutoMlos

open Lib

/-- `power_mode_t`. -/
inductive PowerMode where
  | active
  | lowPower
  | sleep
  | deepSleep
  deriving DecidableEq, Repr

/-- `g_scheduler` with its power management. -/
structure PowerScheduler where
  scheduler : SchedulerState
  idleTimeAccumulated : UInt64
  currentPowerMode : PowerMode

/-- `scheduler_init`, with the time it reads. -/
def PowerScheduler.init (uptime : UInt64) : PowerScheduler where
  scheduler := schedulerInit uptime
  idleTimeAccumulated := 0
  currentPowerMode := .active

/-- A call or an assignment that `scheduler_use_idle_process` makes. -/
inductive PowerAction where
  | enterLowPowerMode
  | enterSleepMode
  | exitLowPowerMode
  | assign (mode : PowerMode)
  deriving DecidableEq, Repr

/-- One second of idle time, in microseconds. -/
def lowPowerThreshold : UInt64 := 1000000

/-- Five seconds. -/
def sleepThreshold : UInt64 := 5000000

/-- `scheduler_use_idle_process`, with the time it reads. -/
def schedulerUseIdleProcess (s : PowerScheduler) (currentTime : UInt64) :
    List PowerAction × PowerScheduler :=
  if s.scheduler.currentPid = schedulerIdlePid then
    let s := { s with
      idleTimeAccumulated :=
        s.idleTimeAccumulated + (currentTime - s.scheduler.lastTickTime) }
    let (lowPower, s) :=
      if s.idleTimeAccumulated > lowPowerThreshold ∧ s.currentPowerMode ≠ .lowPower then
        ([.enterLowPowerMode, .assign .lowPower], { s with currentPowerMode := .lowPower })
      else ([], s)
    let (sleep, s) :=
      if s.idleTimeAccumulated > sleepThreshold ∧ s.currentPowerMode ≠ .sleep then
        ([.enterSleepMode, .assign .sleep], { s with currentPowerMode := .sleep })
      else ([], s)
    (lowPower ++ sleep, s)
  else
    let s := { s with idleTimeAccumulated := 0 }
    if s.currentPowerMode ≠ .active then
      ([.exitLowPowerMode, .assign .active], { s with currentPowerMode := .active })
    else ([], s)

/-! ## an idle period -/

/-- What happens in an idle period. -/
inductive IdleStep where
  | useIdleProcess (currentTime : UInt64)
  | tick (currentTime : UInt64)
  deriving DecidableEq, Repr

/-- The time a step reads. -/
def IdleStep.currentTime : IdleStep → UInt64
  | .useIdleProcess currentTime => currentTime
  | .tick currentTime => currentTime

namespace PowerScheduler

/-- One step, with the actions it takes. -/
def step (s : PowerScheduler) : IdleStep → List PowerAction × PowerScheduler
  | .useIdleProcess currentTime => schedulerUseIdleProcess s currentTime
  | .tick currentTime => ([], { s with scheduler := schedulerTick s.scheduler currentTime })

/-- The times of a run are in order, from the last tick before it on. -/
def InTimeOrder (s : PowerScheduler) (steps : List IdleStep) : Prop :=
  (s.scheduler.lastTickTime :: steps.map IdleStep.currentTime).Pairwise (· ≤ ·)

instance (s : PowerScheduler) (steps : List IdleStep) : Decidable (s.InTimeOrder steps) :=
  inferInstanceAs (Decidable (List.Pairwise _ _))

/-- The actions of a run. -/
def actions (s : PowerScheduler) (steps : List IdleStep) : List PowerAction :=
  (mealy step s steps).1.flatten

/-- The mode that an idle time and the two thresholds determine. -/
def modeFor (idleTime : UInt64) : PowerMode :=
  if idleTime > sleepThreshold then .sleep
  else if idleTime > lowPowerThreshold then .lowPower
  else .active

/-- The values that actions assign to `current_power_mode`. -/
def assigned (actions : List PowerAction) : List PowerMode :=
  actions.filterMap fun
    | .assign mode => some mode
    | _ => none

/-- No SLEEP is followed by LOW_POWER. -/
def NeverBack (modes : List PowerMode) : Prop :=
  modes.Pairwise fun mode mode' => ¬ (mode = .sleep ∧ mode' = .lowPower)

instance (modes : List PowerMode) : Decidable (NeverBack modes) :=
  inferInstanceAs (Decidable (modes.Pairwise _))

/-- After a call the mode is the one determined by the idle time. -/
def Determined (i : IdleStep) (s' : PowerScheduler) : Prop :=
  match i with
  | .useIdleProcess _ => s'.currentPowerMode = modeFor s'.idleTimeAccumulated
  | .tick _ => True

/-- **The power mode deepens monotonically** in a run. -/
structure Deepens (s : PowerScheduler) (steps : List IdleStep) : Prop where
  neverBack : NeverBack (s.currentPowerMode :: assigned (s.actions steps))
  lowPower_once : (s.actions steps).count .enterLowPowerMode ≤ 1
  sleep_once : (s.actions steps).count .enterSleepMode ≤ 1
  determined : Always (total step) (fun _ i _ s' => Determined i s') s steps

/-- The idle time that a call finds. -/
def idleTimeAt (s : PowerScheduler) (currentTime : UInt64) : UInt64 :=
  s.idleTimeAccumulated + (currentTime - s.scheduler.lastTickTime)

/-- A call is made before more than five seconds have been accumulated, and
once there has been one second, the idle time does not wrap around to below
it. -/
def MayDeepen (s : PowerScheduler) : IdleStep → Prop
  | .useIdleProcess currentTime => s.idleTimeAccumulated ≤ sleepThreshold ∧
      (s.idleTimeAccumulated > lowPowerThreshold → s.idleTimeAt currentTime > lowPowerThreshold)
  | .tick _ => True

/-- An idle scheduler whose mode is the one determined by its idle time. -/
structure Idle (s : PowerScheduler) : Prop where
  currentPid : s.scheduler.currentPid = schedulerIdlePid
  mode : s.currentPowerMode = modeFor s.idleTimeAccumulated

/-! ## one call -/

/-- The actions from a mode when another one is determined. -/
def actionsTo (mode : PowerMode) : PowerMode → List PowerAction
  | .lowPower => if mode = .lowPower then [] else [.enterLowPowerMode, .assign .lowPower]
  | .sleep =>
      (if mode = .lowPower then [] else [.enterLowPowerMode, .assign .lowPower]) ++
        [.enterSleepMode, .assign .sleep]
  | _ => []

/-- The mode they lead to. -/
def modeTo (mode : PowerMode) : PowerMode → PowerMode
  | .lowPower => .lowPower
  | .sleep => .sleep
  | _ => mode

/-- **What a call does** while the idle pid is current. -/
theorem schedulerUseIdleProcess_spec {s : PowerScheduler}
    (h : s.scheduler.currentPid = schedulerIdlePid) (currentTime : UInt64) :
    schedulerUseIdleProcess s currentTime =
      (actionsTo s.currentPowerMode (modeFor (s.idleTimeAt currentTime)),
        { s with
          idleTimeAccumulated := s.idleTimeAt currentTime
          currentPowerMode :=
            modeTo s.currentPowerMode (modeFor (s.idleTimeAt currentTime)) }) := by
  have hthresholds : lowPowerThreshold < sleepThreshold := by decide
  have hfound : s.idleTimeAccumulated + (currentTime - s.scheduler.lastTickTime) =
      s.idleTimeAt currentTime := rfl
  simp only [schedulerUseIdleProcess, if_pos h, hfound, modeFor]
  by_cases hsleep : s.idleTimeAt currentTime > sleepThreshold
  · have hlow : s.idleTimeAt currentTime > lowPowerThreshold :=
      UInt64.lt_trans hthresholds hsleep
    by_cases hmode : s.currentPowerMode = .lowPower <;>
      simp [hsleep, hlow, hmode, actionsTo, modeTo]
  · by_cases hlow : s.idleTimeAt currentTime > lowPowerThreshold
    · by_cases hmode : s.currentPowerMode = .lowPower <;>
        simp [hsleep, hlow, hmode, actionsTo, modeTo]
    · simp [hsleep, hlow, actionsTo, modeTo]

/-- The deep sleep mode is never determined. -/
theorem modeFor_ne_deepSleep (idleTime : UInt64) : modeFor idleTime ≠ .deepSleep := by
  rw [modeFor]
  split
  · decide
  · split <;> decide

theorem modeFor_eq_sleep_iff (idleTime : UInt64) :
    modeFor idleTime = .sleep ↔ idleTime > sleepThreshold := by
  rw [modeFor]
  split
  · next hsleep => exact iff_of_true rfl hsleep
  · next hsleep =>
    refine iff_of_false ?_ hsleep
    split <;> decide

theorem modeFor_eq_active_iff (idleTime : UInt64) :
    modeFor idleTime = .active ↔ ¬ idleTime > lowPowerThreshold := by
  have hthresholds : lowPowerThreshold < sleepThreshold := by decide
  rw [modeFor]
  split
  · next hsleep =>
    exact iff_of_false (by decide) (not_not.mpr (UInt64.lt_trans hthresholds hsleep))
  · split
    · next hlow => exact iff_of_false (by decide) (not_not.mpr hlow)
    · next hlow => exact iff_of_true rfl hlow

/-- Going on from a mode: not from sleep, and not from low power to active. -/
def Deeper (mode target : PowerMode) : Prop :=
  mode ≠ .sleep ∧ (mode = .lowPower → target ≠ .active)

/-- The actions from one mode to another deepen it exactly in these cases. -/
theorem neverBack_actionsTo_iff {mode target : PowerMode} (hmode : mode ≠ .deepSleep)
    (htarget : target ≠ .deepSleep) :
    NeverBack (mode :: assigned (actionsTo mode target)) ∧ modeTo mode target = target ↔
      Deeper mode target := by
  unfold Deeper
  cases mode <;> cases target <;> first | contradiction | decide

/-- The mode they lead to is one that was assigned, or the one before. -/
theorem modeTo_mem (mode target : PowerMode) :
    modeTo mode target ∈ mode :: assigned (actionsTo mode target) := by
  cases mode <;> cases target <;> decide

/-- The actions that are left in a mode. -/
def remaining : PowerMode → List PowerAction
  | .active => [.enterLowPowerMode, .assign .lowPower, .enterSleepMode, .assign .sleep]
  | .lowPower => [.enterSleepMode, .assign .sleep]
  | _ => []

theorem actionsTo_append_remaining {mode target : PowerMode} (hmode : mode ≠ .deepSleep)
    (htarget : target ≠ .deepSleep) (h : Deeper mode target) :
    actionsTo mode target ++ remaining target = remaining mode := by
  unfold Deeper at h
  revert h
  cases mode <;> cases target <;> first | contradiction | decide

section Step

variable {s : PowerScheduler}

theorem Idle.mode_ne_deepSleep (h : s.Idle) : s.currentPowerMode ≠ .deepSleep := by
  rw [h.mode]
  exact modeFor_ne_deepSleep _

/-- The thresholds, read as modes. -/
theorem Idle.mayDeepen_iff (h : s.Idle) (currentTime : UInt64) :
    s.MayDeepen (.useIdleProcess currentTime) ↔
      Deeper s.currentPowerMode (modeFor (s.idleTimeAt currentTime)) := by
  have hlow : modeFor s.idleTimeAccumulated = .lowPower ↔
      ¬ s.idleTimeAccumulated > sleepThreshold ∧ s.idleTimeAccumulated > lowPowerThreshold := by
    rw [← modeFor_eq_sleep_iff, ← not_not (a := s.idleTimeAccumulated > lowPowerThreshold),
      ← modeFor_eq_active_iff]
    have hdeep := modeFor_ne_deepSleep s.idleTimeAccumulated
    cases hmode : modeFor s.idleTimeAccumulated <;> simp_all
  rw [MayDeepen, Deeper, h.mode, Ne, Ne, modeFor_eq_sleep_iff, modeFor_eq_active_iff, hlow,
    UInt64.not_lt, not_not]
  exact and_congr_right fun hle => by rw [and_iff_right hle]

/-- One step deepens the mode. -/
def StepDeepens (s : PowerScheduler) (i : IdleStep) (actions : List PowerAction)
    (s' : PowerScheduler) : Prop :=
  NeverBack (s.currentPowerMode :: assigned actions) ∧ Determined i s'

/-- **One step** deepens the mode exactly if it may, and the scheduler stays
idle then. -/
theorem Idle.step_iff (h : s.Idle) (i : IdleStep) :
    (s.StepDeepens i (s.step i).1 (s.step i).2 ↔ s.MayDeepen i) ∧
      (s.StepDeepens i (s.step i).1 (s.step i).2 → (s.step i).2.Idle) := by
  cases i with
  | useIdleProcess currentTime =>
      have htarget := modeFor_ne_deepSleep (s.idleTimeAt currentTime)
      rw [h.mayDeepen_iff, ← neverBack_actionsTo_iff h.mode_ne_deepSleep htarget, step,
        schedulerUseIdleProcess_spec h.currentPid]
      exact ⟨Iff.rfl, fun hdeepens => ⟨h.currentPid, hdeepens.2⟩⟩
  | tick currentTime =>
      have hpid : (schedulerTick s.scheduler currentTime).currentPid = schedulerIdlePid := by
        rw [SchedulerState.currentPid_schedulerTick, h.currentPid]
      exact ⟨iff_of_true ⟨List.pairwise_singleton _ _, trivial⟩ trivial, fun _ => ⟨hpid, h.mode⟩⟩

/-- The actions of a step and those that are left after it. -/
theorem Idle.step_remaining (h : s.Idle) {i : IdleStep} (hmay : s.MayDeepen i) :
    (s.step i).1 ++ remaining (s.step i).2.currentPowerMode = remaining s.currentPowerMode := by
  cases i with
  | useIdleProcess currentTime =>
      have htarget := modeFor_ne_deepSleep (s.idleTimeAt currentTime)
      rw [h.mayDeepen_iff] at hmay
      obtain ⟨-, hmode⟩ := (neverBack_actionsTo_iff h.mode_ne_deepSleep htarget).mpr hmay
      rw [step, schedulerUseIdleProcess_spec h.currentPid]
      dsimp only
      rw [hmode]
      exact actionsTo_append_remaining h.mode_ne_deepSleep htarget hmay
  | tick currentTime => rfl

end Step

/-! ## the idle period -/

section Run

variable {s : PowerScheduler}

theorem actions_cons (s : PowerScheduler) (i : IdleStep) (steps : List IdleStep) :
    s.actions (i :: steps) = (s.step i).1 ++ (s.step i).2.actions steps := rfl

/-- The actions of a run of deepening steps are the first of those that are
left at its start. -/
theorem Idle.actions_prefix (h : s.Idle) {steps : List IdleStep}
    (hmay : Always (total step) (fun s i _ _ => s.MayDeepen i) s steps) :
    s.actions steps <+: remaining s.currentPowerMode := by
  induction steps generalizing s with
  | nil => exact List.nil_prefix
  | cons i steps ih =>
      rw [always_total_cons] at hmay
      obtain ⟨hdeepens, hidle⟩ := h.step_iff i
      have hrest := ih (hidle (hdeepens.mpr hmay.1)) hmay.2
      rw [actions_cons, ← h.step_remaining hmay.1]
      exact (List.prefix_append_right_inj _).mpr hrest

theorem assigned_append (first rest : List PowerAction) :
    assigned (first ++ rest) = assigned first ++ assigned rest :=
  List.filterMap_append

/-- The mode after a step is one that it assigns, or the one before. -/
theorem Idle.mode_step_mem (h : s.Idle) (i : IdleStep) :
    (s.step i).2.currentPowerMode ∈ s.currentPowerMode :: assigned (s.step i).1 := by
  cases i with
  | useIdleProcess currentTime =>
      rw [step, schedulerUseIdleProcess_spec h.currentPid]
      exact modeTo_mem _ _
  | tick currentTime => exact List.mem_cons_self

/-- Each step of a deepening run deepens the mode. -/
theorem Idle.always_of_deepens (h : s.Idle) {steps : List IdleStep}
    (hback : NeverBack (s.currentPowerMode :: assigned (s.actions steps)))
    (hmode : Always (total step) (fun _ i _ s' => Determined i s') s steps) :
    Always (total step) StepDeepens s steps := by
  induction steps generalizing s with
  | nil => trivial
  | cons i steps ih =>
      rw [always_total_cons] at hmode ⊢
      rw [actions_cons, assigned_append, ← List.cons_append, NeverBack,
        List.pairwise_append] at hback
      obtain ⟨hfirst, hrest, hbetween⟩ := hback
      have hstep : StepDeepens s i (s.step i).1 (s.step i).2 := ⟨hfirst, hmode.1⟩
      refine ⟨hstep, ih ((h.step_iff i).2 hstep) ?_ hmode.2⟩
      exact List.pairwise_cons.mpr ⟨hbetween _ (h.mode_step_mem i), hrest⟩

/-- What is left in a mode is in order, and nothing of it twice. -/
theorem remaining_spec (mode : PowerMode) :
    NeverBack (mode :: assigned (remaining mode)) ∧
      (remaining mode).count .enterLowPowerMode ≤ 1 ∧
      (remaining mode).count .enterSleepMode ≤ 1 := by
  cases mode <;> decide

end Run

/-- **The power mode deepens monotonically** in an idle period if and only if
no call is made after one that found more than five seconds, and the idle time
does not wrap around. -/
theorem power_mode_deepens_iff (s : PowerScheduler) (h : s.Idle) (steps : List IdleStep) :
    s.Deepens steps ↔ Always (total step) (fun s i _ _ => s.MayDeepen i) s steps := by
  have hiff : Always (total step) StepDeepens s steps ↔
      Always (total step) (fun s i _ _ => s.MayDeepen i) s steps :=
    always_total_iff_always (fun _ i hidle => hidle.step_iff i) h steps
  constructor
  · exact fun hdeepens => hiff.mp (h.always_of_deepens hdeepens.neverBack hdeepens.determined)
  · intro hmay
    have hsublist : (s.actions steps).Sublist (remaining s.currentPowerMode) :=
      (h.actions_prefix hmay).sublist
    obtain ⟨hback, hlow, hsleep⟩ := remaining_spec s.currentPowerMode
    refine ⟨hback.sublist ((hsublist.filterMap _).cons_cons _), ?_, ?_, ?_⟩
    · exact Nat.le_trans (hsublist.count_le _) hlow
    · exact Nat.le_trans (hsublist.count_le _) hsleep
    · exact (hiff.mpr hmay).imp fun _ _ _ _ hdeepens => hdeepens.2

/-- The scheduler after `scheduler_init`. -/
theorem idle_init (uptime : UInt64) : (init uptime).Idle := ⟨rfl, rfl⟩

/-- A call after two seconds and one after six. -/
def twoCalls : List IdleStep := [.useIdleProcess 2000000, .tick 2000000, .useIdleProcess 6000000]

theorem power_mode_deepens_iff_twoCalls :
    (init 0).Deepens twoCalls ↔
      Always (total step) (fun s i _ _ => s.MayDeepen i) (init 0) twoCalls :=
  power_mode_deepens_iff (init 0) (idle_init 0) twoCalls

/-- Two calls after more than five seconds: the second goes through the low
power mode again. -/
theorem power_mode_not_always_deepens :
    ¬ ∀ (s : PowerScheduler) (steps : List IdleStep), s.Idle → s.InTimeOrder steps →
      s.Deepens steps := by
  intro h
  have hdeepens := h (init 0) [.useIdleProcess 6000000, .useIdleProcess 6000001] (idle_init 0)
    (by decide)
  exact absurd hdeepens.neverBack (by decide)

end PowerScheduler

end AutoMlos
