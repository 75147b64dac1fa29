import AutoMlos.KernelTime

/-!
# AutoMlos.KernelTime.Termination

Reading the kernel clock does not terminate.

`kernel_time_get_tick_count` validates the time sources before it reads the
active one, and `validate_time_sources` reads the clock before it looks at
the validation interval.  Neither changes anything before it calls the
other, so the cycle is entered again in the state in which it was entered:
no bound on the nesting of calls is enough, in any state whose active source
is initialised and for any behaviour of the hardware.
-/

namespace AutoMlos

open Lib Outcome

/-- `source_initialized` holds for the active source. -/
def TimeState.ActiveInitialized (s : TimeState) : Prop :=
  Outcome.readAt s.ctx.sourceInitialized s.ctx.activeSource.value = .ok true

variable {hw : HwClocks} {s : TimeState}

/-- A clock reading of an initialised source is first of all a validation. -/
theorem kernelTimeGetTickCount_succ (h : s.ActiveInitialized) (fuel : Nat) :
    kernelTimeGetTickCount hw (fuel + 1) s =
      validateTimeSources hw fuel s >>= fun r => pure (readActiveSource hw r.2) := by
  rw [kernelTimeGetTickCount, h]
  rfl

/-- A reading of a source that is not initialised is 0. -/
theorem kernelTimeGetTickCount_of_not_initialized
    (h : Outcome.readAt s.ctx.sourceInitialized s.ctx.activeSource.value = .ok false)
    (fuel : Nat) : kernelTimeGetTickCount hw (fuel + 1) s = .ok (0, s) := by
  rw [kernelTimeGetTickCount, h]
  rfl

/-- The two functions of the cycle use up any bound. -/
theorem clock_cycle (h : s.ActiveInitialized) (fuel : Nat) :
    kernelTimeGetTickCount hw fuel s = .outOfFuel ∧
      validateTimeSources hw fuel s = .outOfFuel := by
  induction fuel with
  | zero => exact ⟨by rw [kernelTimeGetTickCount], by rw [validateTimeSources]⟩
  | succ fuel ih =>
      constructor
      · rw [kernelTimeGetTickCount_succ h, ih.2, outOfFuel_bind]
      · rw [validateTimeSources, ih.1, outOfFuel_bind]

theorem kernelTimeGetTickCount_diverges (h : s.ActiveInitialized) :
    Diverges fun fuel => kernelTimeGetTickCount hw fuel s :=
  fun fuel => (clock_cycle h fuel).1

theorem kernelTimeDelayUs_diverges (h : s.ActiveInitialized) (us : UInt32) :
    Diverges fun fuel => kernelTimeDelayUs hw us fuel s :=
  (kernelTimeGetTickCount_diverges h).bind fun fuel r =>
    delayLoopBy (kernelTimeGetTickCount hw fuel) r.1 us fuel r.2

theorem kernelTimeInit_diverges {s₀ : TimeState} {init : HwInit}
    (hfirst : s₀.ctx.primaryInitialized = false)
    (h : (kernelTimeInitSources hw init s₀).ActiveInitialized) :
    Diverges fun fuel => kernelTimeInit hw init fuel s₀ := by
  intro fuel
  simp only [kernelTimeInit, hfirst, Bool.false_eq_true, if_false, (clock_cycle h fuel).1,
    outOfFuel_bind]

/-- **No clock reading returns**: in every state whose active source is
initialised, for every behaviour of the hardware counters, the reading, the
validation, the uptime, every delay, and every initialisation that leads to
this state run into any bound on the nesting of calls. -/
theorem kernel_time_never_returns (hw : HwClocks) (s : TimeState) (h : s.ActiveInitialized) :
    (Diverges fun fuel => kernelTimeGetTickCount hw fuel s) ∧
    (Diverges fun fuel => validateTimeSources hw fuel s) ∧
    (Diverges fun fuel => kernelTimeGetUptimeUs hw fuel s) ∧
    (∀ us, Diverges fun fuel => kernelTimeDelayUs hw us fuel s) ∧
    ∀ init s₀, s₀.ctx.primaryInitialized = false → kernelTimeInitSources hw init s₀ = s →
      Diverges fun fuel => kernelTimeInit hw init fuel s₀ := by
  refine ⟨kernelTimeGetTickCount_diverges h, fun fuel => (clock_cycle h fuel).2,
    kernelTimeGetTickCount_diverges h, kernelTimeDelayUs_diverges h, ?_⟩
  rintro init s₀ hfirst rfl
  exact kernelTimeInit_diverges hfirst h

/-- Counters that stand still. -/
def stoppedClocks : HwClocks := ⟨fun _ => 0, fun _ => 0⟩

/-- The state of `kernel_time_init` before its clock reading, when the
hardware initialises. -/
def sourcesReady : TimeState :=
  kernelTimeInitSources stoppedClocks ⟨timeErrorSuccess, 1000000, timeErrorSuccess⟩ .zero

/-- No reading returns in the state a successful initialisation prepares. -/
theorem kernel_time_never_returns_sourcesReady :
    (Diverges fun fuel => kernelTimeGetTickCount stoppedClocks fuel sourcesReady) ∧
    (Diverges fun fuel => validateTimeSources stoppedClocks fuel sourcesReady) ∧
    (Diverges fun fuel => kernelTimeGetUptimeUs stoppedClocks fuel sourcesReady) ∧
    (∀ us, Diverges fun fuel => kernelTimeDelayUs stoppedClocks us fuel sourcesReady) ∧
    ∀ init s₀, s₀.ctx.primaryInitialized = false →
      kernelTimeInitSources stoppedClocks init s₀ = sourcesReady →
      Diverges fun fuel => kernelTimeInit stoppedClocks init fuel s₀ :=
  kernel_time_never_returns stoppedClocks sourcesReady rfl

/-- Reading the clock of an initialised source is not a terminating call. -/
theorem clock_reading_not_terminating :
    ¬ ∀ (hw : HwClocks) (s : TimeState), s.ActiveInitialized →
      Returns fun fuel => kernelTimeGetTickCount hw fuel s := by
  intro h
  have hready : sourcesReady.ActiveInitialized := rfl
  exact (kernelTimeGetTickCount_diverges hready).not_returns (h stoppedClocks sourcesReady hready)

end AutoMlos
