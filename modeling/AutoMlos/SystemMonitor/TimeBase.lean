import AutoMlos.HwTimer
import AutoMlos.KernelTime
import AutoMlos.SystemMonitor

/-!
# AutoMlos.SystemMonitor.TimeBase

Whether the monitor's time is defined and runs forward.

The monitor divides by the frequency of a timer that another module has to
initialise.  `kernel_time_init` succeeds without it, and the kernel then goes on
to the monitor.  With a timer, a counter is multiplied by 10^6 in 64 bits
before the division.  So the time is sound up to a counter exactly if a monitor
that is initialised has its timer and the product still fits.
-/

namespace AutoMlos

open Lib

/-- `system_monitor_get_system_time_us`, for what `hw_timer_get_counter`
answers. -/
def systemMonitorGetSystemTimeUsOn (timer : HwTimer) (counter : UInt64) (s : SystemMonitor) :
    Outcome UInt64 :=
  if s.initialized = false then return 0
  else do
    let time ← Outcome.udiv (counter * 1000000).toNat (hwTimerGetFrequency timer).toNat
    return UInt64.ofNat time

/-! ## the start of the system -/

/-- The timer, the time context, the monitor, and whether `kernel_init` has got
past `kernel_time_init`. -/
structure StartState where
  timer : HwTimer
  time : TimeState
  timeReady : Bool
  monitor : SystemMonitor

/-- The zeroed statics. -/
def StartState.zero : StartState := ⟨.zero, .zero, false, .zero⟩

/-- A call during the start.  The results of self-tests, of `hw_rtc_init` and
of `ipc_create_port`, and the counters that are read, come from outside. -/
inductive StartCall where
  | hwTimerInit (frequencyHz : UInt32) (mode : HwTimerMode) (selfTest : SystemError)
  | kernelTimeInit (selfTest rtcInit : SystemError) (hw : HwClocks) (fuel : Nat)
  | systemMonitorServiceInit (primary backup : MonitorError × UInt32)

/-- What a call returns; `notReached` if `kernel_init` does not make it. -/
inductive StartReply where
  | status (error : SystemError)
  | monitor (error : MonitorError)
  | notReached
  deriving DecidableEq, Repr

/-- One call.  `kernel_time_init` initialises the timer itself, unless it finds
its primary source initialised; `kernel_init` gets to the monitor after a
`kernel_time_init` that succeeded. -/
def StartState.step (s : StartState) : StartCall → Outcome (StartReply × StartState)
  | .hwTimerInit frequencyHz mode selfTest =>
      let (error, timer) := hwTimerInit frequencyHz mode selfTest s.timer
      return (.status error, { s with timer })
  | .kernelTimeInit selfTest rtcInit hw fuel => do
      let (timerInit, timer) :=
        if s.time.ctx.primaryInitialized then (timeErrorAlreadyInitialized, s.timer)
        else hwTimerInit 1000000 .freeRunning selfTest s.timer
      let init : HwInit := ⟨timerInit, hwTimerGetFrequency timer, rtcInit⟩
      let (error, time) ← kernelTimeInit hw init fuel s.time
      let timeReady := s.timeReady || error.errorCode = errBaseOk
      return (.status error, { s with timer, time, timeReady })
  | .systemMonitorServiceInit primary backup =>
      if s.timeReady then
        let (error, monitor) := systemMonitorServiceInit primary backup s.monitor
        return (.monitor error, { s with monitor })
      else return (.notReached, s)

/-- Up to a counter, the time is defined and runs forward. -/
def TimeSound (s : StartState) (bound : UInt64) : Prop :=
  ∀ c₁ c₂ : UInt64, c₁ ≤ c₂ → c₂ ≤ bound →
    ∃ t₁ t₂,
      systemMonitorGetSystemTimeUsOn s.timer c₁ s.monitor = .ok t₁ ∧
      systemMonitorGetSystemTimeUsOn s.timer c₂ s.monitor = .ok t₂ ∧ t₁ ≤ t₂

/-! ## the driver's frequencies -/

/-- An initialised timer has a frequency that the driver admits. -/
def HwTimer.Admitted (t : HwTimer) : Prop :=
  t.initialized = true →
    hwTimerMinFrequencyHz ≤ t.frequencyHz ∧ t.frequencyHz ≤ hwTimerMaxFrequencyHz

theorem HwTimer.Admitted.hwTimerInit {t : HwTimer} (h : t.Admitted) (frequencyHz : UInt32)
    (mode : HwTimerMode) (selfTest : SystemError) :
    (hwTimerInit frequencyHz mode selfTest t).2.Admitted := by
  unfold AutoMlos.hwTimerInit
  split
  · exact h
  · split
    · exact h
    · next hfrequency =>
      have hadmitted : hwTimerMinFrequencyHz ≤ frequencyHz ∧
          frequencyHz ≤ hwTimerMaxFrequencyHz := by
        obtain ⟨hlow, hhigh⟩ := not_or.mp hfrequency
        exact ⟨UInt32.not_lt.mp hlow, UInt32.not_lt.mp hhigh⟩
      simp only
      split
      · exact fun hinit => absurd hinit (by simp [HwTimer.zero])
      · split
        · exact fun hinit => absurd hinit (by simp [HwTimer.zero])
        · exact fun _ => hadmitted

theorem StartState.admitted_step {s s' : StartState} {call : StartCall} {reply : StartReply}
    (h : s.timer.Admitted) (hstep : s.step call = .ok (reply, s')) : s'.timer.Admitted := by
  cases call with
  | hwTimerInit frequencyHz mode selfTest =>
      obtain rfl := congrArg Prod.snd (Outcome.ok.inj hstep)
      exact h.hwTimerInit frequencyHz mode selfTest
  | kernelTimeInit selfTest rtcInit hw fuel =>
      obtain ⟨⟨error, time⟩, -, hreturn⟩ := Outcome.bind_eq_ok hstep
      obtain rfl := congrArg Prod.snd (Outcome.ok.inj hreturn)
      change HwTimer.Admitted (if s.time.ctx.primaryInitialized then _ else _ : _ × HwTimer).2
      split
      · exact h
      · exact h.hwTimerInit 1000000 .freeRunning selfTest
  | systemMonitorServiceInit primary backup =>
      simp only [step] at hstep
      split at hstep
      · obtain rfl := congrArg Prod.snd (Outcome.ok.inj hstep)
        exact h
      · obtain rfl := congrArg Prod.snd (Outcome.ok.inj hstep)
        exact h

/-! ## the time of a counter -/

section Time

variable {timer : HwTimer} {s : SystemMonitor}

theorem systemMonitorGetSystemTimeUsOn_of_not_initialized (timer : HwTimer)
    (h : s.initialized = false) (counter : UInt64) :
    systemMonitorGetSystemTimeUsOn timer counter s = .ok 0 :=
  if_pos h

/-- Without a timer the monitor divides by zero. -/
theorem systemMonitorGetSystemTimeUsOn_of_no_timer (h : s.initialized = true)
    (htimer : timer.initialized = false) (counter : UInt64) :
    systemMonitorGetSystemTimeUsOn timer counter s = .undefined := by
  simp only [systemMonitorGetSystemTimeUsOn, h, hwTimerGetFrequency, htimer]
  rfl

/-- The time of a platform is that of a timer with its frequency. -/
theorem systemMonitorGetSystemTimeUsOn_eq (p : MonitorPlatform)
    (hfrequency : hwTimerGetFrequency timer = p.timerFrequency) (counter : UInt64) :
    systemMonitorGetSystemTimeUsOn timer counter s =
      .ok (systemMonitorGetSystemTimeUs p counter s) := by
  have hne : p.timerFrequency.toNat ≠ 0 := fun h =>
    p.timerFrequency_ne_zero (UInt64.toNat_inj.mp h)
  rw [systemMonitorGetSystemTimeUsOn, systemMonitorGetSystemTimeUs, hfrequency]
  split
  · rfl
  · rw [Outcome.udiv, if_neg hne, Outcome.ok_bind, Outcome.pure_eq_ok, ← UInt64.toNat_div,
      UInt64.ofNat_toNat]

/-- With a timer it divides the product, in 64 bits, by the frequency. -/
theorem systemMonitorGetSystemTimeUsOn_of_timer (h : s.initialized = true)
    (htimer : timer.initialized = true) (hadmitted : timer.Admitted) (counter : UInt64) :
    ∃ t, systemMonitorGetSystemTimeUsOn timer counter s = .ok t ∧
      t.toNat = counter.toNat * 1000000 % 2 ^ 64 / timer.frequencyHz.toNat := by
  have hlow : 1000 ≤ timer.frequencyHz.toNat := UInt32.le_iff_toNat_le.mp (hadmitted htimer).1
  have hfrequency : (hwTimerGetFrequency timer).toNat = timer.frequencyHz.toNat := by
    rw [hwTimerGetFrequency, if_pos htimer, UInt32.toNat_toUInt64]
  have hne : hwTimerGetFrequency timer ≠ 0 := by
    rw [ne_eq, ← UInt64.toNat_inj, hfrequency]
    exact Nat.ne_of_gt (Nat.lt_of_lt_of_le (by decide) hlow)
  have hinit : ¬ s.initialized = false := by simp [h]
  refine ⟨_, systemMonitorGetSystemTimeUsOn_eq ⟨hwTimerGetFrequency timer, hne, 0⟩ rfl counter, ?_⟩
  rw [systemMonitorGetSystemTimeUs, if_neg hinit, UInt64.toNat_div, UInt64.toNat_mul, hfrequency]
  rfl

/-- Where the products fit, the times of two counters are in order. -/
theorem time_le_of_fits {c₁ c₂ : UInt64} (hle : c₁ ≤ c₂) (hfits : c₂.toNat * 1000000 < 2 ^ 64)
    (f : Nat) : c₁.toNat * 1000000 % 2 ^ 64 / f ≤ c₂.toNat * 1000000 % 2 ^ 64 / f := by
  have hle' : c₁.toNat * 1000000 ≤ c₂.toNat * 1000000 :=
    Nat.mul_le_mul_right 1000000 (UInt64.le_iff_toNat_le.mp hle)
  rw [Nat.mod_eq_of_lt hfits, Nat.mod_eq_of_lt (Nat.lt_of_le_of_lt hle' hfits)]
  exact Nat.div_le_div_right hle'

/-- The first counter whose product wraps. -/
def firstWrapped : UInt64 := 18446744073710

/-- At an admitted frequency the first product that wraps throws the time
back. -/
theorem time_lt_of_wrapped {f : Nat} (hlow : 1000 ≤ f) (hhigh : f ≤ 1000000) :
    firstWrapped.toNat * 1000000 % 2 ^ 64 / f <
      (firstWrapped - 1).toNat * 1000000 % 2 ^ 64 / f := by
  have hwrapped : firstWrapped.toNat * 1000000 % 2 ^ 64 = 448384 := by decide
  have hlast : (firstWrapped - 1).toNat * 1000000 % 2 ^ 64 = 18446744073709000000 := by decide
  rw [hwrapped, hlast]
  have hpos : 0 < f := Nat.lt_of_lt_of_le (by decide) hlow
  calc 448384 / f ≤ 448384 / 1000 := Nat.div_le_div_left hlow (by decide)
    _ < 18446744073709000000 / 1000000 := by decide
    _ ≤ 18446744073709000000 / f := Nat.div_le_div_left (a := 18446744073709000000) hhigh hpos

/-- The time of an initialised monitor with a timer is sound up to a counter
exactly if the product of that counter fits. -/
theorem timeSound_iff_of_timer {start : StartState} (h : start.monitor.initialized = true)
    (htimer : start.timer.initialized = true) (hadmitted : start.timer.Admitted)
    (bound : UInt64) : TimeSound start bound ↔ bound.toNat * 1000000 < 2 ^ 64 := by
  have htime := systemMonitorGetSystemTimeUsOn_of_timer h htimer hadmitted
  obtain ⟨hlow, hhigh⟩ := hadmitted htimer
  replace hlow : 1000 ≤ start.timer.frequencyHz.toNat := UInt32.le_iff_toNat_le.mp hlow
  replace hhigh : start.timer.frequencyHz.toNat ≤ 1000000 := UInt32.le_iff_toNat_le.mp hhigh
  constructor
  · intro hsound
    by_contra hwraps
    have hle : firstWrapped ≤ bound := by
      rw [UInt64.le_iff_toNat_le]
      change 18446744073710 ≤ bound.toNat
      omega
    obtain ⟨t₁, t₂, h₁, h₂, hordered⟩ := hsound (firstWrapped - 1) firstWrapped (by decide) hle
    obtain ⟨t₁', h₁', hvalue₁⟩ := htime (firstWrapped - 1)
    obtain ⟨t₂', h₂', hvalue₂⟩ := htime firstWrapped
    obtain rfl := Outcome.ok.inj (h₁.symm.trans h₁')
    obtain rfl := Outcome.ok.inj (h₂.symm.trans h₂')
    have hback := time_lt_of_wrapped hlow hhigh
    rw [← hvalue₁, ← hvalue₂] at hback
    exact Nat.not_le.mpr hback (UInt64.le_iff_toNat_le.mp hordered)
  · intro hfits c₁ c₂ hle hbound
    have hfits₂ : c₂.toNat * 1000000 < 2 ^ 64 :=
      Nat.lt_of_le_of_lt (Nat.mul_le_mul_right 1000000 (UInt64.le_iff_toNat_le.mp hbound)) hfits
    obtain ⟨t₁, h₁, hvalue₁⟩ := htime c₁
    obtain ⟨t₂, h₂, hvalue₂⟩ := htime c₂
    have hordered := time_le_of_fits hle hfits₂ start.timer.frequencyHz.toNat
    rw [← hvalue₁, ← hvalue₂] at hordered
    exact ⟨t₁, t₂, h₁, h₂, UInt64.le_iff_toNat_le.mpr hordered⟩

end Time

/-- After every start that gets through, the time is sound up to a counter
exactly if a monitor that is initialised has an initialised timer and the
product of that counter fits. -/
theorem monitor_time_sound_iff {calls : List StartCall} {replies : List StartReply}
    {s : StartState} (hrun : run StartState.step .zero calls = .ok (replies, s))
    (bound : UInt64) :
    TimeSound s bound ↔ (s.monitor.initialized = true →
      s.timer.initialized = true ∧ bound.toNat * 1000000 < 2 ^ 64) := by
  have hzero : StartState.zero.timer.Admitted := fun hinit => absurd hinit (by decide)
  have hadmitted : s.timer.Admitted :=
    run_invariant (fun _ _ _ _ h hstep => StartState.admitted_step h hstep) hzero hrun
  cases hmonitor : s.monitor.initialized with
  | false =>
      have hnow := systemMonitorGetSystemTimeUsOn_of_not_initialized s.timer hmonitor
      refine iff_of_true (fun c₁ c₂ _ _ => ?_) (by simp)
      exact ⟨0, 0, hnow c₁, hnow c₂, UInt64.le_refl 0⟩
  | true =>
      rw [forall_prop_of_true rfl]
      cases htimer : s.timer.initialized with
      | false =>
          refine iff_of_false (fun hsound => ?_) (by simp)
          obtain ⟨t₁, -, hok, -⟩ := hsound 0 0 (UInt64.le_refl 0) UInt64.zero_le
          rw [systemMonitorGetSystemTimeUsOn_of_no_timer hmonitor htimer] at hok
          contradiction
      | true =>
          rw [timeSound_iff_of_timer hmonitor htimer hadmitted, and_iff_right rfl]

/-- A start with a timer that was initialised before `kernel_time_init`. -/
def startWithTimer : List StartCall :=
  [.hwTimerInit 1000000 .freeRunning hwTimerOk,
    .kernelTimeInit hwTimerOk hwTimerOk ⟨fun _ => 0, fun _ => 0⟩ 1,
    .systemMonitorServiceInit (.none, 1) (.none, 2)]

theorem monitor_time_sound_iff_startWithTimer :
    ∃ replies s, run StartState.step .zero startWithTimer = .ok (replies, s) ∧
      (TimeSound s 1000 ↔ (s.monitor.initialized = true →
        s.timer.initialized = true ∧ (1000 : UInt64).toNat * 1000000 < 2 ^ 64)) := by
  have hreturns : ∃ replies s, run StartState.step .zero startWithTimer = .ok (replies, s) :=
    ⟨_, _, rfl⟩
  obtain ⟨replies, s, hrun⟩ := hreturns
  exact ⟨replies, s, hrun, monitor_time_sound_iff hrun 1000⟩

/-- A timer fails its self-test, `kernel_time_init` succeeds all the same, and
the monitor that starts then divides by zero. -/
theorem monitor_time_unsound :
    ¬ ∀ (calls : List StartCall) (replies : List StartReply) (s : StartState),
      run StartState.step .zero calls = .ok (replies, s) → ∀ bound, TimeSound s bound := by
  intro h
  have hsound := h
    [.kernelTimeInit (systemErrorCreate errSysConfigError .system .high moduleIdHwTimer) hwTimerOk
        ⟨fun _ => 0, fun _ => 0⟩ 1,
      .systemMonitorServiceInit (.none, 1) (.none, 2)] _ _ rfl 0
  obtain ⟨t₁, -, hok, -⟩ := hsound 0 0 (UInt64.le_refl 0) (UInt64.le_refl 0)
  rw [systemMonitorGetSystemTimeUsOn_of_no_timer rfl rfl] at hok
  contradiction

end AutoMlos
