import AutoMlos.KernelTime.Termination
import AutoMlos.KernelTime.Validation

/-!
# AutoMlos.KernelTime.Usable

When the active time source is usable.

`TimeState.Ready` is the invariant of the time module: healthy sources are
initialised, the software source is one of them, and so is the active source.
Every validation keeps it (`Ready.validated`), and `kernel_time_init` sets it
up when the hardware timer initialises.  When the timer does not,
`kernel_time_init` leaves `active_source` at `TIME_SOURCE_PRIMARY`, which is
then neither initialised nor healthy, and reports success.
-/

namespace AutoMlos

open Lib

namespace TimeState

/-! ## the invariant -/

/-- `source_initialized` and `source_healthy` hold for the active source; the
first is the guard of `kernel_time_get_tick_count`. -/
def Usable (s : TimeState) : Prop :=
  s.ActiveInitialized ∧
    Outcome.readAt s.ctx.sourceHealthy s.ctx.activeSource.value = .ok true

/-- The active source is an initialised hardware source. -/
def HardwareActive (s : TimeState) : Prop :=
  s.ActiveInitialized ∧ s.ctx.activeSource ≠ .software

/-- **What the time module maintains.** -/
structure Ready (s : TimeState) : Prop where
  initialized : ∀ k, s.healthy k = true → s.initialized k = true
  frequency : ∀ k, s.healthy k = true → s.frequency k ≠ 0
  software : s.healthy 2 = true
  unblamed : s.failCount 2 = 0
  active : ∃ k, s.Active k ∧ s.healthy k = true

theorem Ready.sane {s : TimeState} (h : s.Ready) : s.Sane where
  active := h.active.imp fun _ => And.left
  timer := h.frequency 0
  rtc := h.frequency 1

theorem Ready.usable {s : TimeState} (h : s.Ready) : s.Usable := by
  obtain ⟨k, hk, hhealthy⟩ := h.active
  constructor
  · have hinit : s.ctx.sourceInitialized.get k = true := h.initialized k hhealthy
    rw [ActiveInitialized, readAt_active hk, hinit]
  · have hread : s.ctx.sourceHealthy.get k = true := hhealthy
    rw [readAt_active hk, hread]

/-- The software source is never blamed. -/
theorem blamed_ne_software (s : TimeState) (r : TimeReadings) : s.blamed r ≠ some 2 := by
  intro h
  have hahead := (blamed_eq_some_iff.mp h).2.2
  unfold ahead at hahead
  split at hahead
  · exact absurd hahead (show (0 : Fin 3) ≠ 2 by decide)
  · exact absurd hahead (show (1 : Fin 3) ≠ 2 by decide)

/-- A validation keeps the invariant: the software source is there to switch
to. -/
theorem Ready.validated {s s' : TimeState} {r : TimeReadings} (h : s.Ready)
    (hv : s.Validated r s') : s'.Ready := by
  have hstays (k : Fin 3) (hk : s'.healthy k = true) : s.healthy k = true :=
    ((hv.healthy k).mp hk).1
  have hinit (k : Fin 3) : s'.initialized k = s.initialized k := by
    rw [TimeState.initialized, hv.same.initialized, TimeState.initialized]
  have hunblamed : s'.failCount 2 = 0 := by
    rw [hv.failCount, if_neg (blamed_ne_software s r), h.unblamed, UInt32.add_zero]
  have hsoftware : s'.healthy 2 = true := by
    rw [hv.healthy, hunblamed]
    exact ⟨h.software, fun _ => by decide⟩
  refine ⟨?_, ?_, hsoftware, hunblamed, ?_⟩
  · intro k hk
    rw [hinit]
    exact h.initialized k (hstays k hk)
  · intro k hk
    rw [TimeState.frequency, hv.same.frequency]
    exact h.frequency k (hstays k hk)
  · obtain ⟨k, hactive, hk⟩ := h.active
    cases hk' : s'.healthy k with
    | true => exact ⟨k, hv.active k hactive (.inr hk'), hk'⟩
    | false =>
        by_cases hdue : s.Due r
        · have hsoftwareInit : s'.initialized 2 = true := by
            rw [hinit]
            exact h.initialized 2 h.software
          obtain ⟨j, hj, husable, -⟩ :=
            hv.switched k hactive hdue hk' ⟨2, hsoftware, hsoftwareInit⟩
          exact ⟨j, hj, husable⟩
        · have hstill := (hv.healthy k).mpr ⟨hk, fun hd => absurd hd hdue⟩
          exact absurd (hk'.symm.trans hstill) Bool.false_ne_true

/-- The active source stays usable along every run of validations. -/
theorem Ready.always_usable {s : TimeState} (h : s.Ready) (readings : List TimeReadings) :
    Always validate (fun _ _ _ s' => s'.Usable) s readings := by
  have hstep (s : TimeState) (r : TimeReadings) (h : s.Ready) (_ : True) :
      ∃ e s', s.validate r = .ok (e, s') ∧ s'.Usable ∧ s'.Ready := by
    obtain ⟨s', heq, hv⟩ := validate_spec h.sane r
    have hready : s'.Ready := h.validated hv
    exact ⟨timeErrorSuccess, s', heq, hready.usable, hready⟩
  exact always_of_invariant hstep h fun _ _ => trivial

end TimeState

/-! ## initialisation -/

/-- A context in which sources have been entered and none was ever blamed. -/
structure KernelTimeCtx.Fresh (ctx : KernelTimeCtx) : Prop where
  healthy : ctx.sourceHealthy = ctx.sourceInitialized
  frequency : ∀ k : Fin 3, ctx.sourceHealthy.get k = true → ctx.tickFrequency.get k ≠ 0
  failCount : ∀ k : Fin 3, ctx.sourceFailCount.get k = 0
  active : ctx.activeSource = .primary

namespace KernelTimeCtx

theorem fresh_zero : KernelTimeCtx.zero.Fresh where
  healthy := rfl
  frequency k h := by
    have hfalse : KernelTimeCtx.zero.sourceHealthy.get k = false := by
      match k with
      | 0 => rfl
      | 1 => rfl
      | 2 => rfl
    exact absurd (hfalse.symm.trans h) Bool.false_ne_true
  failCount k := by
    match k with
    | 0 => rfl
    | 1 => rfl
    | 2 => rfl
  active := rfl

/-- Entering a source with a frequency. -/
theorem Fresh.enterSource {ctx : KernelTimeCtx} (h : ctx.Fresh) (i : Fin 3) (boot : UInt64)
    {frequency : UInt64} (hfrequency : frequency ≠ 0) :
    (ctx.enterSource i boot frequency).Fresh where
  healthy := by rw [KernelTimeCtx.enterSource, h.healthy]
  frequency k hk := by
    rw [KernelTimeCtx.enterSource, get_set] at hk ⊢
    by_cases hik : i = k
    · rwa [if_pos hik]
    · rw [if_neg hik] at hk ⊢
      exact h.frequency k hk
  failCount := h.failCount
  active := h.active

theorem initialized_enterSource (ctx : KernelTimeCtx) (i k : Fin 3) (boot frequency : UInt64) :
    (ctx.enterSource i boot frequency).sourceInitialized.get k =
      if i = k then true else ctx.sourceInitialized.get k :=
  get_set ctx.sourceInitialized i k true

/-- A source entered if its hardware initialised. -/
def enterIf (ctx : KernelTimeCtx) (ok : Bool) (i : Fin 3) (boot frequency : UInt64) :
    KernelTimeCtx :=
  if ok then ctx.enterSource i boot frequency else ctx

theorem Fresh.enterIf {ctx : KernelTimeCtx} (h : ctx.Fresh) {ok : Bool} (i : Fin 3)
    (boot : UInt64) {frequency : UInt64} (hfrequency : ok = true → frequency ≠ 0) :
    (ctx.enterIf ok i boot frequency).Fresh := by
  cases ok with
  | false => exact h
  | true => exact h.enterSource i boot (hfrequency rfl)

theorem initialized_enterIf (ctx : KernelTimeCtx) (ok : Bool) (i k : Fin 3)
    (boot frequency : UInt64) :
    (ctx.enterIf ok i boot frequency).sourceInitialized.get k =
      if i = k then ok || ctx.sourceInitialized.get k else ctx.sourceInitialized.get k := by
  cases ok with
  | false => simp [enterIf]
  | true => simp [enterIf, initialized_enterSource]

end KernelTimeCtx

section Init

variable {hw : HwClocks} {timerInit rtcInit : SystemError}

/-- What `kernel_time_init` enters: the hardware sources that initialised and
the software source. -/
theorem kernelTimeInitSources_ctx (hw : HwClocks) (timerInit rtcInit : SystemError) :
    (kernelTimeInitSources hw (.ofResults timerInit rtcInit) .zero).ctx =
      ((KernelTimeCtx.zero.enterIf (decide (timerInit.errorCode = errBaseOk)) 0 (hw.timer 0)
        1000000).enterIf (decide (rtcInit.errorCode = errBaseOk)) 1 (hw.rtc 0)
        32768).enterSource 2 0 1000 := by
  have hsuccess : timeErrorSuccess.errorCode = errBaseOk := rfl
  by_cases htimer : timerInit.errorCode = errBaseOk <;>
    by_cases hrtc : rtcInit.errorCode = errBaseOk <;>
    simp only [kernelTimeInitSources, initPrimaryTimeSource, initSecondaryTimeSource,
      HwInit.ofResults, htimer, hrtc, hsuccess, not_true, not_false_iff, ne_eq, if_true, if_false,
      decide_true, decide_false] <;>
    rfl

/-- **The context after `kernel_time_init` entered the sources.** -/
theorem kernelTimeInitSources_spec (hw : HwClocks) (timerInit rtcInit : SystemError) :
    let ctx := (kernelTimeInitSources hw (.ofResults timerInit rtcInit) .zero).ctx
    ctx.Fresh ∧
      ctx.sourceInitialized.get 0 = decide (timerInit.errorCode = errBaseOk) ∧
      ctx.sourceInitialized.get 1 = decide (rtcInit.errorCode = errBaseOk) ∧
      ctx.sourceInitialized.get 2 = true := by
  dsimp only
  rw [kernelTimeInitSources_ctx]
  refine ⟨?_, ?_, ?_, ?_⟩
  · refine ((KernelTimeCtx.fresh_zero.enterIf 0 _ fun _ => ?_).enterIf 1 _ fun _ => ?_).enterSource
      2 _ ?_ <;> decide
  all_goals
    simp only [KernelTimeCtx.initialized_enterSource, KernelTimeCtx.initialized_enterIf,
      Fin.reduceEq, if_true, if_false]
  · exact Bool.or_false _
  · exact Bool.or_false _

/-! ## the state left by initialisation -/

/-- **What `kernel_time_init` leaves when the timer initialised**: an
invariant state in which every source has been blamed at most once, the
primary source is active and a hardware source is healthy if it is
initialised. -/
structure Started (rtcInit : SystemError) (s : TimeState) : Prop where
  ready : s.Ready
  primary : s.healthy 0 = true
  secondary : rtcInit.errorCode = errBaseOk → s.healthy 1 = true
  failCount : ∀ k, s.failCount k ≤ 1
  active : s.Active 0

/-- The state from which the first clock reading is taken. -/
theorem ready_of_fresh {s : TimeState} (h : s.ctx.Fresh) (htimer : s.initialized 0 = true)
    (hsoftware : s.initialized 2 = true) : s.Ready := by
  have hhealthy (k : Fin 3) : s.healthy k = s.initialized k := by
    rw [TimeState.healthy, h.healthy, TimeState.initialized]
  exact {
    initialized := fun k hk => (hhealthy k).symm.trans hk
    frequency := h.frequency
    software := (hhealthy 2).trans hsoftware
    unblamed := h.failCount 2
    active := ⟨0, h.active, (hhealthy 0).trans htimer⟩ }

/-- The validation of the first clock reading blames a source at most once, so
that it leaves all of them healthy. -/
theorem started_of_validated {s s' : TimeState} {r : TimeReadings} (h : s.ctx.Fresh)
    (hready : s.Ready) (hv : s.Validated r s') (hprimary : s.healthy 0 = true)
    (hsecondary : rtcInit.errorCode = errBaseOk → s.healthy 1 = true) :
    Started rtcInit s' := by
  have hcount (k : Fin 3) : s'.failCount k ≤ 1 := by
    rw [hv.failCount, TimeState.failCount, h.failCount]
    split <;> decide
  have hstays (k : Fin 3) (hk : s.healthy k = true) : s'.healthy k = true := by
    have hlow : ¬ s'.failCount k > 3 :=
      fun hhigh => absurd (UInt32.lt_of_lt_of_le hhigh (hcount k)) (by decide)
    exact (hv.healthy k).mpr ⟨hk, fun _ => hlow⟩
  exact {
    ready := hready.validated hv
    primary := hstays 0 hprimary
    secondary := fun hrtc => hstays 1 (hsecondary hrtc)
    failCount := hcount
    active := hv.active 0 h.active (.inr (hstays 0 hprimary)) }

/-- Reading the active source leaves the context. -/
theorem readActiveSource_ctx (hw : HwClocks) (s : TimeState) :
    (readActiveSource hw s).2.ctx = s.ctx := by
  unfold readActiveSource
  split <;> rfl

/-- **`kernel_time_init` succeeds when the timer initialises.** -/
theorem kernelTimeInitAt_started (hw : HwClocks) (rtcInit : SystemError) (currentTime : UInt64)
    (htimer : timerInit.errorCode = errBaseOk) :
    ∃ s, kernelTimeInitAt hw (.ofResults timerInit rtcInit) currentTime .zero =
      .ok (timeErrorSuccess, s) ∧ Started rtcInit s := by
  obtain ⟨hfresh, hinit₀, hinit₁, hinit₂⟩ := kernelTimeInitSources_spec hw timerInit rtcInit
  have hfirst : ¬ TimeState.zero.ctx.primaryInitialized = true := by decide
  rw [kernelTimeInitAt, if_neg hfirst]
  generalize kernelTimeInitSources hw (.ofResults timerInit rtcInit) .zero = s₁
    at hfresh hinit₀ hinit₁ hinit₂
  have hprimary : s₁.initialized 0 = true := hinit₀.trans (decide_eq_true htimer)
  have hready : s₁.Ready := ready_of_fresh hfresh hprimary hinit₂
  have hhealthy (k : Fin 3) : s₁.healthy k = s₁.initialized k := by
    rw [TimeState.healthy, hfresh.healthy, TimeState.initialized]
  obtain ⟨s₂, heq, hv⟩ := TimeState.validateTimeSourcesAt_spec hready.sane hw currentTime
  have hstarted : Started rtcInit s₂ :=
    started_of_validated hfresh hready hv ((hhealthy 0).trans hprimary)
      fun hrtc => (hhealthy 1).trans (hinit₁.trans (decide_eq_true hrtc))
  have htick : kernelTimeGetTickCountAt hw currentTime s₁ = .ok (readActiveSource hw s₂) := by
    rw [kernelTimeGetTickCountAt, hready.usable.1, Outcome.ok_bind, heq]
    rfl
  have hctx := readActiveSource_ctx hw s₂
  rw [htick, Outcome.ok_bind]
  generalize readActiveSource hw s₂ = read at hctx
  dsimp only
  rw [hctx, if_pos (show s₂.ctx.activeSource ≠ .software by rw [hstarted.active]; decide)]
  -- entering the time of the validation changes nothing `Started` speaks of
  obtain ⟨⟨hinit, hfrequency, hsoftware, hunblamed, husable⟩, h₀, h₁, hcount, hactive⟩ := hstarted
  exact ⟨_, rfl, ⟨hinit, hfrequency, hsoftware, hunblamed, husable⟩, h₀, h₁, hcount, hactive⟩

/-- **`kernel_time_init` also succeeds when the timer does not initialise**,
and leaves a source active that is not initialised. -/
theorem kernelTimeInitAt_of_timer_failed (hw : HwClocks) (rtcInit : SystemError)
    (currentTime : UInt64) (htimer : timerInit.errorCode ≠ errBaseOk) :
    ∃ s, kernelTimeInitAt hw (.ofResults timerInit rtcInit) currentTime .zero =
      .ok (timeErrorSuccess, s) ∧ ¬ s.ActiveInitialized := by
  obtain ⟨hfresh, hinit₀, -, -⟩ := kernelTimeInitSources_spec hw timerInit rtcInit
  have hfirst : ¬ TimeState.zero.ctx.primaryInitialized = true := by decide
  rw [kernelTimeInitAt, if_neg hfirst]
  generalize kernelTimeInitSources hw (.ofResults timerInit rtcInit) .zero = s₁
    at hfresh hinit₀
  have hactive : s₁.Active 0 := hfresh.active
  have hread : Outcome.readAt s₁.ctx.sourceInitialized s₁.ctx.activeSource.value = .ok false := by
    rw [TimeState.readAt_active hactive, hinit₀, decide_eq_false htimer]
  have htick : kernelTimeGetTickCountAt hw currentTime s₁ = .ok (0, s₁) := by
    rw [kernelTimeGetTickCountAt, hread, Outcome.ok_bind]
    rfl
  rw [htick, Outcome.ok_bind]
  dsimp only
  rw [if_pos (show s₁.ctx.activeSource ≠ .software by rw [hfresh.active]; decide)]
  refine ⟨_, rfl, fun hactive => ?_⟩
  rw [TimeState.ActiveInitialized, hread] at hactive
  cases hactive

end Init

/-! ## the whole contract -/

/-- The active source is usable whenever `kernel_time_init` has returned, with
these results of the hardware and any counter readings, then and later; and
success is reported for a hardware source only. -/
def AlwaysUsable (timerInit rtcInit : SystemError) : Prop :=
  ∀ (hw : HwClocks) (currentTime : UInt64) (readings : List TimeReadings),
    ∃ error s, kernelTimeInitAt hw (.ofResults timerInit rtcInit) currentTime .zero =
        .ok (error, s) ∧
      s.Usable ∧ (error.errorCode = errSysOk → s.HardwareActive) ∧
      Always TimeState.validate (fun _ _ _ s' => s'.Usable) s readings

/-- **The active source is usable exactly when the hardware timer
initialises**, whatever becomes of the RTC. -/
theorem active_source_usable_iff (timerInit rtcInit : SystemError) :
    AlwaysUsable timerInit rtcInit ↔ timerInit.errorCode = errBaseOk := by
  constructor
  · intro h
    by_contra htimer
    obtain ⟨s, heq, hunusable⟩ := kernelTimeInitAt_of_timer_failed stoppedClocks rtcInit 0 htimer
    obtain ⟨error, s', heq', husable, -⟩ := h stoppedClocks 0 []
    rw [heq] at heq'
    cases heq'
    exact hunusable husable.1
  · intro htimer hw currentTime readings
    obtain ⟨s, heq, hstarted⟩ := kernelTimeInitAt_started hw rtcInit currentTime htimer
    have hhardware : s.ctx.activeSource ≠ .software := by
      rw [hstarted.active]
      decide
    exact ⟨timeErrorSuccess, s, heq, hstarted.ready.usable,
      fun _ => ⟨hstarted.ready.usable.1, hhardware⟩, hstarted.ready.always_usable readings⟩

/-- What `hw_timer_init` answers when the timer is in use already. -/
def timerInUse : SystemError :=
  systemErrorCreate errSysAlreadyInit .system .medium moduleIdHwTimer

/-- A timer that is in use already leaves the clock without a usable source. -/
theorem active_source_not_usable : ¬ AlwaysUsable timerInUse timeErrorSuccess := by
  intro h
  obtain ⟨error, s, heq, husable, -⟩ := h stoppedClocks 0 []
  cases heq
  exact absurd (show (Outcome.ok false : Outcome Bool) = .ok true from husable.1) (by decide)

end AutoMlos
