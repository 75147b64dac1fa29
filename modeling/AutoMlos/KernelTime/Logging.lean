import AutoMlos.KernelTime.Blame
import AutoMlos.LogClient.Accounting

/-!
# AutoMlos.KernelTime.Logging

The log calls of the time module.

A validation that takes a source's health or switches to another source says so
in the log (`TimeState.Reports`).  But the module's tag is not below
`LOG_TAG_COUNT`, and the log client checks tags before anything else.  So none
of these calls is ever accepted, in whatever state the client is.
-/

namespace AutoMlos

open Lib

/-- From one state to a later one, log calls with the tag of the time module
were made, and at least one if a source's health or the active source is
another. -/
structure TimeState.Reports (s s' : TimeState) : Prop where
  added : ∃ calls, s'.logged = s.logged ++ calls ∧ ∀ args ∈ calls, args.tagId = logTagTime
  silent : s'.logged = s.logged →
    s'.ctx.sourceHealthy = s.ctx.sourceHealthy ∧ s'.ctx.activeSource = s.ctx.activeSource

section Reports

variable {hw : HwClocks} {s s' s'' : TimeState} {error : SystemError} {time : UInt64}

theorem TimeState.Reports.of_frame (hlogged : s'.logged = s.logged)
    (hhealthy : s'.ctx.sourceHealthy = s.ctx.sourceHealthy)
    (hactive : s'.ctx.activeSource = s.ctx.activeSource) : s.Reports s' :=
  ⟨⟨[], by rw [hlogged, List.append_nil], by simp⟩, fun _ => ⟨hhealthy, hactive⟩⟩

theorem TimeState.Reports.refl (s : TimeState) : s.Reports s := .of_frame rfl rfl rfl

theorem TimeState.Reports.trans (h : s.Reports s') (h' : s'.Reports s'') : s.Reports s'' := by
  obtain ⟨calls, hcalls, htags⟩ := h.added
  obtain ⟨calls', hcalls', htags'⟩ := h'.added
  have hadded : s''.logged = s.logged ++ (calls ++ calls') := by
    rw [hcalls', hcalls, List.append_assoc]
  refine ⟨⟨calls ++ calls', hadded, fun args hargs => ?_⟩, fun hsame => ?_⟩
  · exact (List.mem_append.mp hargs).elim (htags args) (htags' args)
  · have hnone : calls ++ calls' = [] := List.append_right_eq_self.mp (hadded.symm.trans hsame)
    obtain ⟨hnone, hnone'⟩ := List.append_eq_nil_iff.mp hnone
    obtain ⟨hhealthy, hactive⟩ := h.silent (by rw [hcalls, hnone, List.append_nil])
    obtain ⟨hhealthy', hactive'⟩ := h'.silent (by rw [hcalls', hnone', List.append_nil])
    exact ⟨hhealthy'.trans hhealthy, hactive'.trans hactive⟩

/-- Whatever changes together with a log call is reported. -/
theorem TimeState.Reports.of_log {level : UInt8} {messageId : UInt16} {data1 data2 : UInt32}
    (h : s'.logged = (s.log level messageId data1 data2).logged) : s.Reports s' :=
  ⟨⟨_, h, by simp⟩, fun hsame => absurd (h.symm.trans hsame) (by simp [TimeState.log])⟩

/-! ## a validation -/

theorem reports_primaryTime (h : primaryTime hw s = .ok (time, s')) : s.Reports s' := by
  unfold primaryTime at h
  split at h
  · obtain ⟨elapsed, -, hreturn⟩ := Outcome.bind_eq_ok h
    cases hreturn
    exact .of_frame rfl rfl rfl
  · cases h
    exact .refl s

theorem reports_secondaryTime (h : secondaryTime hw s = .ok (time, s')) : s.Reports s' := by
  unfold secondaryTime at h
  split at h
  · obtain ⟨elapsed, -, hreturn⟩ := Outcome.bind_eq_ok h
    cases hreturn
    exact .of_frame rfl rfl rfl
  · cases h
    exact .refl s

theorem reports_checkDrift (primary secondary : UInt64) (s : TimeState) :
    s.Reports (checkDrift primary secondary s) := by
  unfold checkDrift
  generalize (if primary > secondary then primary - secondary else secondary - primary) = drift
  split
  · dsimp only
    split
    · exact .of_log rfl
    · exact .of_frame rfl rfl rfl
  · exact .refl s

theorem reports_checkFailCount (s : TimeState) (i : Fin 3) : s.Reports (checkFailCount s i) := by
  unfold checkFailCount
  split
  · exact .of_log rfl
  · exact .refl s

theorem reports_checkFailCounts (is : List (Fin 3)) (s : TimeState) :
    s.Reports (is.foldl checkFailCount s) := by
  induction is generalizing s with
  | nil => exact .refl s
  | cons i is ih => exact (reports_checkFailCount s i).trans (ih _)

theorem reports_switchSource (h : switchSource s = .ok s') : s.Reports s' := by
  obtain ⟨healthy, -, hrest⟩ := Outcome.bind_eq_ok h
  split at hrest
  · cases hrest
    exact .refl s
  · split at hrest
    · cases hrest
      exact .refl s
    · cases hrest
      exact .of_log rfl

/-- **A validation reports what it does.** -/
theorem reports_validateTimeSourcesAt {currentTime : UInt64}
    (h : validateTimeSourcesAt hw currentTime s = .ok (error, s')) : s.Reports s' := by
  unfold validateTimeSourcesAt at h
  split at h
  · cases h
    exact .refl s
  · obtain ⟨⟨primary, s₁⟩, hprimary, hrest⟩ := Outcome.bind_eq_ok h
    obtain ⟨⟨secondary, s₂⟩, hsecondary, hrest⟩ := Outcome.bind_eq_ok hrest
    obtain ⟨s₃, hswitch, hreturn⟩ := Outcome.bind_eq_ok hrest
    cases hreturn
    have hstamped : s.Reports { s with ctx := { s.ctx with lastValidationTime := currentTime } } :=
      .of_frame rfl rfl rfl
    exact hstamped.trans (reports_primaryTime hprimary)
      |>.trans (reports_secondaryTime hsecondary)
      |>.trans (reports_checkDrift _ _ _)
      |>.trans (reports_checkFailCounts _ _)
      |>.trans (reports_switchSource hswitch)

/-- A run of validations reports what it does. -/
theorem reports_run {readings : List TimeReadings} {errors : List SystemError}
    (h : run TimeState.validate s readings = .ok (errors, s')) : s.Reports s' :=
  run_invariant (fun _ _ _ _ hInv heq => hInv.trans (reports_validateTimeSourcesAt heq)) (.refl s) h

end Reports

/-! ## initialisation -/

section Init

variable {hw : HwClocks} {init : HwInit} {s s' : TimeState} {error : SystemError}

/-- All log calls made carry the tag of the time module. -/
def TimeState.Tagged (s : TimeState) : Prop := ∀ args ∈ s.logged, args.tagId = logTagTime

theorem TimeState.Tagged.log (h : s.Tagged) (level : UInt8) (messageId : UInt16)
    (data1 data2 : UInt32) : (s.log level messageId data1 data2).Tagged := by
  intro args hargs
  rcases List.mem_append.mp hargs with hold | hnew
  · exact h args hold
  · rw [List.mem_singleton.mp hnew]

theorem TimeState.Reports.tagged (h : s.Reports s') (hs : s.Tagged) : s'.Tagged := by
  obtain ⟨calls, hcalls, htags⟩ := h.added
  intro args hargs
  rw [hcalls] at hargs
  exact (List.mem_append.mp hargs).elim (hs args) (htags args)

theorem TimeState.Tagged.initPrimary (h : s.Tagged) :
    (initPrimaryTimeSource hw init s).2.Tagged := by
  unfold initPrimaryTimeSource
  split
  · exact h
  · refine TimeState.Tagged.log ?_ _ _ _ _
    exact h

theorem TimeState.Tagged.initSecondary (h : s.Tagged) :
    (initSecondaryTimeSource hw init s).2.Tagged := by
  unfold initSecondaryTimeSource
  split
  · exact h
  · refine TimeState.Tagged.log ?_ _ _ _ _
    exact h

theorem TimeState.Tagged.initSources (h : s.Tagged) : (kernelTimeInitSources hw init s).Tagged := by
  have hprimary : (initPrimaryTimeSource hw init s).2.Tagged := h.initPrimary
  unfold kernelTimeInitSources
  generalize initPrimaryTimeSource hw init s = primary at hprimary ⊢
  obtain ⟨error, s₁⟩ := primary
  have hchosen : (if error.errorCode = errBaseOk
      then { s₁ with ctx := { s₁.ctx with activeSource := .primary } } else s₁).Tagged := by
    split <;> exact hprimary
  refine TimeState.Tagged.log ?_ _ _ _ _
  exact hchosen.initSecondary

theorem tagged_readActiveSource (h : s.Tagged) : (readActiveSource hw s).2.Tagged := by
  unfold readActiveSource
  split <;> exact h

/-- `kernel_time_init` makes only such calls. -/
theorem tagged_kernelTimeInitAt {currentTime : UInt64} (hs : s.Tagged)
    (h : kernelTimeInitAt hw init currentTime s = .ok (error, s')) : s'.Tagged := by
  unfold kernelTimeInitAt at h
  split at h
  · cases h
    exact hs
  · obtain ⟨⟨tick, s₁⟩, htick, hreturn⟩ := Outcome.bind_eq_ok h
    cases hreturn
    have hsources : (kernelTimeInitSources hw init s).Tagged := hs.initSources
    obtain ⟨initialized, -, hrest⟩ := Outcome.bind_eq_ok htick
    split at hrest
    · cases hrest
      exact hsources
    · obtain ⟨⟨validated, s₂⟩, hvalidate, hread⟩ := Outcome.bind_eq_ok hrest
      have hread : readActiveSource hw s₂ = (tick, s₁) := Outcome.ok.inj hread
      have htagged : (readActiveSource hw s₂).2.Tagged :=
        tagged_readActiveSource ((reports_validateTimeSourcesAt hvalidate).tagged hsources)
      rwa [hread] at htagged

end Init

/-! ## what becomes of the calls -/

/-- The log client refuses a call with the tag of the time module, whatever
state it is in, and stays as it is. -/
theorem logClientSendEntry_of_time_tag {args : LogArgs} (h : args.tagId = logTagTime)
    (client : LogClient) (sys : SysReadings) (published : Bool) :
    logClientSendEntry client args sys published = .ok (logInvalidParam, client, []) := by
  have hrange : ¬ args.InRange := by
    rintro ⟨-, htag, -⟩
    rw [h] at htag
    exact absurd htag (by decide)
  refine logClientSendEntry_of_error (by decide) ?_ published
  rw [logPrepareEntry, logCheckArgs_eq, if_neg hrange]

/-- **No event of the clock reaches the log**: from `kernel_time_init` on, every
validation that takes a source's health or switches sources makes a log call,
and all log calls of the module are refused, by a client in any state. -/
theorem clock_events_never_logged {hw : HwClocks} {init : HwInit} {currentTime : UInt64}
    {error : SystemError} {s s' : TimeState} {readings : List TimeReadings}
    {errors : List SystemError}
    (hinit : kernelTimeInitAt hw init currentTime .zero = .ok (error, s))
    (hrun : run TimeState.validate s readings = .ok (errors, s')) :
    Along TimeState.validate (fun s _ _ s' =>
      s'.ctx.sourceHealthy ≠ s.ctx.sourceHealthy ∨ s'.ctx.activeSource ≠ s.ctx.activeSource →
        s.logged.length < s'.logged.length) s readings ∧
    ∀ args ∈ s'.logged, ∀ client sys published,
      logClientSendEntry client args sys published = .ok (logInvalidParam, client, []) := by
  constructor
  · refine along_of_invariant (fun s r e s' _ heq => ⟨fun hchange => ?_, trivial⟩) trivial readings
    have hreports : s.Reports s' := reports_validateTimeSourcesAt heq
    obtain ⟨calls, hcalls, -⟩ := hreports.added
    cases calls with
    | nil =>
        obtain ⟨hhealthy, hactive⟩ := hreports.silent (hcalls.trans (List.append_nil _))
        exact absurd hchange (by simp [hhealthy, hactive])
    | cons call calls => simp [hcalls]
  · intro args hargs client sys published
    have hempty : TimeState.zero.Tagged := by simp [TimeState.Tagged, TimeState.zero]
    have htagged : s.Tagged := tagged_kernelTimeInitAt hempty hinit
    exact logClientSendEntry_of_time_tag ((reports_run hrun).tagged htagged args hargs) client sys
      published

/-- Both hardware sources initialise, and the RTC then stands still. -/
theorem clock_events_never_logged_stalledRtc :
    ∃ errors s', run TimeState.validate clockStarted (stalledRtc.map (·.toTimeReadings)) =
        .ok (errors, s') ∧
      Along TimeState.validate (fun s _ _ s' =>
        s'.ctx.sourceHealthy ≠ s.ctx.sourceHealthy ∨ s'.ctx.activeSource ≠ s.ctx.activeSource →
          s.logged.length < s'.logged.length) clockStarted
        (stalledRtc.map (·.toTimeReadings)) ∧
      ∀ args ∈ s'.logged, ∀ client sys published,
        logClientSendEntry client args sys published = .ok (logInvalidParam, client, []) := by
  have hready : clockStarted.Ready := by
    have hok : timeErrorSuccess.errorCode = errBaseOk := rfl
    obtain ⟨s, heq, hstarted⟩ := kernelTimeInitAt_started stoppedClocks timeErrorSuccess 0 hok
    cases heq.symm.trans kernelTimeInitAt_clockStarted
    exact hstarted.ready
  have hstep (s : TimeState) (r : TimeReadings) (h : s.Ready) :
      ∃ error s', s.validate r = .ok (error, s') ∧ s'.Ready := by
    obtain ⟨s', heq, hv⟩ := TimeState.validate_spec h.sane r
    exact ⟨timeErrorSuccess, s', heq, h.validated hv⟩
  obtain ⟨errors, s', hrun, -⟩ := run_of_invariant hstep hready (stalledRtc.map (·.toTimeReadings))
  exact ⟨errors, s', hrun, clock_events_never_logged kernelTimeInitAt_clockStarted hrun⟩

end AutoMlos
