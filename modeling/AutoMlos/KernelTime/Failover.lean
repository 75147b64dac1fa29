import AutoMlos.KernelTime.Blame

/-!
# AutoMlos.KernelTime.Failover

When the kernel clock changes its source.

As long as both hardware sources are healthy, every validation in which their
times differ too much raises one of two counts.  The fourth blame of a source
takes it out, and with it the comparison that blames anyone: the other
hardware source stays, and the switch finds it before the software one.
-/

namespace AutoMlos

open Lib

namespace TimeState

variable {s s' : TimeState} {r : TimeReadings} {hw : HwClocks}

/-! ## validations that return -/

/-- A frequency of 0 makes the division undefined. -/
theorem primaryTime_undefined (hhealthy : s.healthy 0 = true) (hzero : s.frequency 0 = 0) :
    primaryTime hw s = .undefined := by
  have hread : s.ctx.sourceHealthy[0] = true := hhealthy
  have hfrequency : s.ctx.tickFrequency[0] = 0 := hzero
  simp only [primaryTime, hread, if_true, hwTimerGetCounter, hfrequency]
  rfl

theorem secondaryTime_undefined (hhealthy : s.healthy 1 = true) (hzero : s.frequency 1 = 0) :
    secondaryTime hw s = .undefined := by
  have hread : s.ctx.sourceHealthy[1] = true := hhealthy
  have hfrequency : s.ctx.tickFrequency[1] = 0 := hzero
  simp only [secondaryTime, hread, if_true, hwRtcGetCounter, hfrequency]
  rfl

/-- A due validation starts with the two times. -/
theorem validate_of_due (hdue : s.Due r) : s.validate r =
    let hw : HwClocks := ⟨fun _ => r.timer, fun _ => r.rtc⟩
    primaryTime hw (s.stamp r) >>= fun p => secondaryTime hw p.2 >>= fun q =>
      switchSource ((List.finRange 3).foldl checkFailCount (checkDrift p.1 q.1 q.2)) >>=
        fun s' => .ok (timeErrorSuccess, s') :=
  if_neg hdue

/-- A due validation that returns divided by the frequencies of the healthy
sources. -/
theorem sane_of_validate_ok {e : SystemError} (hactive : ∃ k, s.Active k) (hdue : s.Due r)
    (h : s.validate r = .ok (e, s')) : s.Sane := by
  rw [validate_of_due hdue] at h
  dsimp only at h
  have htimer : (s.stamp r).healthy 0 = true → (s.stamp r).frequency 0 ≠ 0 := by
    intro hhealthy hzero
    rw [primaryTime_undefined hhealthy hzero, Outcome.undefined_bind] at h
    cases h
  refine ⟨hactive, htimer, ?_⟩
  intro hhealthy hzero
  have hundefined (n : Nat) : secondaryTime ⟨fun _ => r.timer, fun _ => r.rtc⟩
      { s.stamp r with timerReads := n } = .undefined :=
    secondaryTime_undefined hhealthy hzero
  rw [primaryTime_eq htimer, Outcome.ok_bind] at h
  dsimp only at h
  rw [hundefined, Outcome.undefined_bind] at h
  cases h

/-- What a validation leaves, if it returns. -/
theorem validated_of_ok {e : SystemError} (hactive : ∃ k, s.Active k)
    (h : s.validate r = .ok (e, s')) : s.Validated r s' := by
  by_cases hdue : s.Due r
  · obtain ⟨s₁, heq, hv⟩ := validate_spec (sane_of_validate_ok hactive hdue h) r
    cases heq.symm.trans h
    exact hv
  · have hkept : s.validate r = .ok (timeErrorSuccess, s) := validateTimeSourcesAt_of_not_due hdue
    cases hkept.symm.trans h
    exact validated_of_not_due hdue

/-! ## the switch to the secondary source -/

/-- The switch looks at the sources in their order. -/
theorem switchSource_secondary (h : s.Active 0) (hprimary : s.healthy 0 = false)
    (hsecondary : s.healthy 1 = true) (hinit : s.initialized 1 = true) :
    ∃ s', switchSource s = .ok s' ∧ s'.Active 1 := by
  have hread : s.ctx.sourceHealthy.get 0 = false := hprimary
  have hfound : (List.finRange 3).find?
      (fun i => s.ctx.sourceHealthy[i] && s.ctx.sourceInitialized[i]) = some 1 := by
    have hsources : List.finRange 3 = [0, 1, 2] := by decide
    have hfirst : s.ctx.sourceHealthy[(0 : Fin 3)] = false := hprimary
    have hsecond : s.ctx.sourceHealthy[(1 : Fin 3)] = true := hsecondary
    have hready : s.ctx.sourceInitialized[(1 : Fin 3)] = true := hinit
    simp only [hsources, List.find?_cons, hfirst, hsecond, hready, Bool.false_and, Bool.and_self]
  simp only [switchSource, readAt_active h, Outcome.ok_bind, Outcome.pure_eq_ok, hread,
    Bool.false_eq_true, if_false, hfound]
  exact ⟨_, rfl, rfl⟩

/-- A validation that costs the active primary source its health makes the
secondary source active, if that one keeps its health. -/
theorem validate_switches {e : SystemError} (h : s.Active 0) (hinit : s.initialized 1 = true)
    (hprimary : s.healthy 0 = true) (heq : s.validate r = .ok (e, s'))
    (hlost : s'.healthy 0 = false) (hkept : s'.healthy 1 = true) : s'.Active 1 := by
  have hv := validated_of_ok ⟨0, h⟩ heq
  have hdue : s.Due r := by
    by_contra hnot
    have hstill := (hv.healthy 0).mpr ⟨hprimary, fun hdue => absurd hdue hnot⟩
    exact absurd (hlost.symm.trans hstill) Bool.false_ne_true
  have hsane := sane_of_validate_ok ⟨0, h⟩ hdue heq
  have hreadings : (HwClocks.mk (fun _ => r.timer) fun _ => r.rtc).readings r.currentTime s = r :=
    rfl
  obtain ⟨hsame, hactive, -, -⟩ := checked_spec hdue
  have hchecked : (s.checked r).Active 0 := hactive.trans h
  obtain ⟨s₁, hswitch, -, -, hhealthy, -, -⟩ := switchSource_spec hchecked
  have hvalidate : s.validate r = .ok (timeErrorSuccess, s₁) := by
    rw [validate, validateTimeSourcesAt_of_due hsane hreadings hdue, hswitch, Outcome.ok_bind]
  cases hvalidate.symm.trans heq
  have hread (k : Fin 3) : (s.checked r).healthy k = s'.healthy k := by
    rw [healthy, healthy, hhealthy]
  have hinit' : (s.checked r).initialized 1 = true := by
    rw [initialized, hsame.initialized]
    exact hinit
  obtain ⟨s₂, hswitch₂, hsecondary⟩ := switchSource_secondary hchecked
    ((hread 0).trans hlost) ((hread 1).trans hkept) hinit'
  cases hswitch.symm.trans hswitch₂
  exact hsecondary

/-! ## counting the differences -/

/-- The validation takes both converted times, and they differ by more than
`MAX_TIME_DRIFT_US`. -/
def TimesDiffer (s : TimeState) (r : TimeReadings) : Prop :=
  s.Due r ∧ s.healthy 0 = true ∧ s.healthy 1 = true ∧
    drift (s.microseconds 0 r.timer) (s.microseconds 1 r.rtc) > maxTimeDriftUs

instance (s : TimeState) (r : TimeReadings) : Decidable (s.TimesDiffer r) :=
  inferInstanceAs (Decidable (_ ∧ _ ∧ _ ∧ _))

/-- A validation blames a source when the times differ, and one of the two
hardware sources then. -/
theorem blamed_cases (s : TimeState) (r : TimeReadings) :
    (¬ s.TimesDiffer r ∧ s.blamed r = none) ∨
      s.TimesDiffer r ∧ (s.blamed r = some 0 ∨ s.blamed r = some 1) := by
  by_cases hdiffer : s.TimesDiffer r
  · refine .inr ⟨hdiffer, ?_⟩
    have hblamed : s.blamed r = some (ahead _ _) := if_pos hdiffer
    rw [hblamed, ahead]
    split
    · exact .inl rfl
    · exact .inr rfl
  · exact .inl ⟨hdiffer, if_neg hdiffer⟩

/-- The count of a source that is not above the threshold, as a number. -/
theorem Validated.toNat_failCount (hv : s.Validated r s') {k : Fin 3} (h : s.failCount k ≤ 3) :
    (s'.failCount k).toNat =
      (s.failCount k).toNat + if s.blamed r = some k then 1 else 0 := by
  have hle : (s.failCount k).toNat ≤ 3 := UInt32.le_iff_toNat_le.mp h
  rw [hv.failCount]
  split
  · rw [UInt32.toNat_add, UInt32.toNat_one]
    omega
  · rw [UInt32.add_zero, Nat.add_zero]

/-- A source that is not above the threshold stays healthy. -/
theorem Validated.stays_healthy (hv : s.Validated r s') {k : Fin 3} (hhealthy : s.healthy k = true)
    (hlow : (s'.failCount k).toNat ≤ 3) : s'.healthy k = true := by
  have hle : s'.failCount k ≤ 3 := UInt32.le_iff_toNat_le.mpr hlow
  exact (hv.healthy k).mpr ⟨hhealthy, fun _ => UInt32.not_lt.mpr hle⟩

/-- A source above the threshold loses its health in a due validation. -/
theorem Validated.loses_health (hv : s.Validated r s') {k : Fin 3} (hdue : s.Due r)
    (hhigh : 3 < (s'.failCount k).toNat) : s'.healthy k = false := by
  have hlt : s'.failCount k > 3 := UInt32.lt_iff_toNat_lt.mpr hhigh
  exact Bool.eq_false_iff.mpr fun hhealthy => ((hv.healthy k).mp hhealthy).2 hdue hlt

theorem Validated.stays_lost (hv : s.Validated r s') {k : Fin 3} (hlost : s.healthy k = false) :
    s'.healthy k = false := by
  rw [Bool.eq_false_iff] at hlost ⊢
  exact fun hhealthy => hlost ((hv.healthy k).mp hhealthy).1

end TimeState

/-- The time module, and the number of validations so far that found the two
hardware times too different. -/
structure WatchedClock where
  state : TimeState
  differed : Nat

namespace WatchedClock

/-- One validation. -/
def validate (t : WatchedClock) (r : TimeReadings) : Outcome (SystemError × WatchedClock) := do
  let (error, state) ← t.state.validate r
  return (error, { state, differed := t.differed + if t.state.TimesDiffer r then 1 else 0 })

/-- **What a failover may look like**: lost health is not regained, the active
source is healthy and never one before the last one, a source is lost after
four differences at the earliest, and one hardware source is always left, so
that the software source is not needed. -/
structure FailsOver (t t' : WatchedClock) : Prop where
  sticky : ∀ k, t.state.healthy k = false → t'.state.healthy k = false
  active : ∃ k, t'.state.Active k ∧ t'.state.healthy k = true ∧ ∀ j, t.state.Active j → j ≤ k
  threshold : ∀ k, t.state.healthy k = true → t'.state.healthy k = false → 4 ≤ t'.differed
  one : t'.state.healthy 0 = true ∨ t'.state.healthy 1 = true
  hardware : t'.state.ctx.activeSource ≠ .software

/-- Which hardware sources are left, which one is active, and what that says
about the counts. -/
inductive Phase (s : TimeState) (differed : Nat) : Prop
  | both (primary : s.healthy 0 = true) (secondary : s.healthy 1 = true) (active : s.Active 0)
      (low₀ : s.failCount 0 ≤ 3) (low₁ : s.failCount 1 ≤ 3)
      (counted : (s.failCount 0).toNat + (s.failCount 1).toNat ≤ differed)
  | secondary (primary : s.healthy 0 = false) (secondary : s.healthy 1 = true) (active : s.Active 1)
      (low : s.failCount 1 ≤ 3)
  | primary (primary : s.healthy 0 = true) (secondary : s.healthy 1 = false) (active : s.Active 0)
      (low : s.failCount 0 ≤ 3)

/-- **What the validations maintain.** -/
structure Guarded (t : WatchedClock) : Prop where
  initialized : t.state.initialized 1 = true
  software : t.state.healthy 2 = true
  unblamed : t.state.failCount 2 = 0
  phase : Phase t.state t.differed

variable {t : WatchedClock} {s' : TimeState} {r : TimeReadings}

theorem Phase.active {s : TimeState} {n : Nat} (h : Phase s n) :
    ∃ k, s.Active k ∧ s.healthy k = true := by
  cases h with
  | both primary secondary active => exact ⟨0, active, primary⟩
  | secondary primary secondary active => exact ⟨1, active, secondary⟩
  | primary primary secondary active => exact ⟨0, active, primary⟩

/-- After a loss no times are compared: the phase stays what it is. -/
theorem Phase.stays {s : TimeState} (hv : s.Validated r s') {k lost : Fin 3}
    (hcompared : s.TimesDiffer r → s.healthy lost = true) (hlost : s.healthy lost = false)
    (hkept : s.healthy k = true) (hactive : s.Active k) (hlow : s.failCount k ≤ 3) :
    s'.healthy k = true ∧ s'.healthy lost = false ∧ s'.Active k ∧ s'.failCount k ≤ 3 := by
  have hnone : s.blamed r = none := by
    rcases TimeState.blamed_cases s r with ⟨-, hnone⟩ | ⟨hdiffer, -⟩
    · exact hnone
    · exact absurd (hlost.symm.trans (hcompared hdiffer)) Bool.false_ne_true
  have hcount : s'.failCount k = s.failCount k := by
    rw [hv.failCount, hnone, if_neg (by rintro ⟨⟩), UInt32.add_zero]
  have hstill : s'.healthy k = true := by
    refine hv.stays_healthy hkept ?_
    rw [hcount]
    exact UInt32.le_iff_toNat_le.mp hlow
  exact ⟨hstill, hv.stays_lost hlost, hv.active k hactive (.inr hstill), hcount ▸ hlow⟩

/-- With both sources healthy, a validation leaves both, or takes out the one
it blames a fourth time. -/
theorem Phase.step_both {s : TimeState} {n : Nat} {e : SystemError}
    (heq : s.validate r = .ok (e, s')) (hinit : s.initialized 1 = true)
    (hprimary : s.healthy 0 = true) (hsecondary : s.healthy 1 = true) (hactive : s.Active 0)
    (hlow₀ : s.failCount 0 ≤ 3) (hlow₁ : s.failCount 1 ≤ 3)
    (hcounted : (s.failCount 0).toNat + (s.failCount 1).toNat ≤ n) :
    let n' := n + if s.TimesDiffer r then 1 else 0
    Phase s' n' ∧ (s'.healthy 0 = true ∧ s'.healthy 1 = true ∨ 4 ≤ n') := by
  have hv := TimeState.validated_of_ok ⟨0, hactive⟩ heq
  have hcount₀ := hv.toNat_failCount hlow₀
  have hcount₁ := hv.toNat_failCount hlow₁
  have hle₀ : (s.failCount 0).toNat ≤ 3 := UInt32.le_iff_toNat_le.mp hlow₀
  have hle₁ : (s.failCount 1).toNat ≤ 3 := UInt32.le_iff_toNat_le.mp hlow₁
  have hbelow (k : Fin 3) (h : (s'.failCount k).toNat ≤ 3) : s'.failCount k ≤ 3 :=
    UInt32.le_iff_toNat_le.mpr h
  have hne : (0 : Fin 3) ≠ 1 := by decide
  dsimp only
  rcases TimeState.blamed_cases s r with ⟨hsame, hnone⟩ | ⟨hdiffer, hblamed | hblamed⟩
  · -- nobody is blamed
    rw [hnone, if_neg (by rintro ⟨⟩)] at hcount₀ hcount₁
    rw [if_neg hsame]
    have hkept₀ := hv.stays_healthy hprimary (by omega)
    have hkept₁ := hv.stays_healthy hsecondary (by omega)
    exact ⟨.both hkept₀ hkept₁ (hv.active 0 hactive (.inr hkept₀)) (hbelow 0 (by omega))
      (hbelow 1 (by omega)) (by omega), .inl ⟨hkept₀, hkept₁⟩⟩
  · -- the primary source is blamed
    rw [hblamed, if_pos rfl] at hcount₀
    rw [hblamed, if_neg (by rw [Option.some_inj]; exact hne)] at hcount₁
    rw [if_pos hdiffer]
    have hkept₁ := hv.stays_healthy hsecondary (by omega)
    by_cases hfourth : (s'.failCount 0).toNat ≤ 3
    · have hkept₀ := hv.stays_healthy hprimary hfourth
      exact ⟨.both hkept₀ hkept₁ (hv.active 0 hactive (.inr hkept₀)) (hbelow 0 hfourth)
        (hbelow 1 (by omega)) (by omega), .inl ⟨hkept₀, hkept₁⟩⟩
    · have hlost := hv.loses_health hdiffer.1 (Nat.lt_of_not_le hfourth)
      have hswitched := TimeState.validate_switches hactive hinit hprimary heq hlost hkept₁
      exact ⟨.secondary hlost hkept₁ hswitched (hbelow 1 (by omega)), .inr (by omega)⟩
  · -- the secondary source is blamed
    rw [hblamed, if_neg (by rw [Option.some_inj]; exact hne.symm)] at hcount₀
    rw [hblamed, if_pos rfl] at hcount₁
    rw [if_pos hdiffer]
    have hkept₀ := hv.stays_healthy hprimary (by omega)
    have hstays := hv.active 0 hactive (.inr hkept₀)
    by_cases hfourth : (s'.failCount 1).toNat ≤ 3
    · have hkept₁ := hv.stays_healthy hsecondary hfourth
      exact ⟨.both hkept₀ hkept₁ hstays (hbelow 0 (by omega)) (hbelow 1 hfourth) (by omega),
        .inl ⟨hkept₀, hkept₁⟩⟩
    · have hlost := hv.loses_health hdiffer.1 (Nat.lt_of_not_le hfourth)
      exact ⟨.primary hkept₀ hlost hstays (hbelow 0 (by omega)), .inr (by omega)⟩

/-- The phase after a validation says that it failed over as it may. -/
theorem Phase.failsOver {t t' : WatchedClock} (hphase : Phase t'.state t'.differed)
    (hv : t.state.Validated r t'.state)
    (hforward : ∀ j k, t.state.Active j → t'.state.Active k → j ≤ k)
    (hthreshold : ∀ k, t.state.healthy k = true → t'.state.healthy k = false → 4 ≤ t'.differed) :
    FailsOver t t' := by
  obtain ⟨k, hk, hhealthy⟩ := hphase.active
  refine ⟨fun _ => hv.stays_lost, ⟨k, hk, hhealthy, fun j hj => hforward j k hj hk⟩, hthreshold,
    ?_, ?_⟩
  · cases hphase with
    | both primary => exact .inl primary
    | secondary _ secondary => exact .inr secondary
    | primary primary => exact .inl primary
  · cases hphase with
    | both _ _ active => rw [active]; decide
    | secondary _ _ active => rw [active]; decide
    | primary _ _ active => rw [active]; decide

/-- The active source has one index. -/
theorem active_unique {s : TimeState} {j k : Fin 3} (hj : s.Active j) (hk : s.Active k) : j = k :=
  TimeState.ofFin_injective (hj.symm.trans hk)

/-- The software source is never blamed, so it stays healthy. -/
theorem Guarded.software_kept (h : t.Guarded) (hv : t.state.Validated r s') :
    s'.healthy 2 = true ∧ s'.failCount 2 = 0 := by
  have hunblamed : s'.failCount 2 = 0 := by
    rw [hv.failCount, if_neg (TimeState.blamed_ne_software _ r), h.unblamed, UInt32.add_zero]
  refine ⟨hv.stays_healthy h.software ?_, hunblamed⟩
  rw [hunblamed]
  exact Nat.zero_le 3

/-- The three sources, one by one. -/
theorem forall_source {p : Fin 3 → Prop} (primary : p 0) (secondary : p 1) (software : p 2) :
    ∀ k, p k :=
  Fin.cases primary (Fin.cases secondary (Fin.cases software fun k => k.elim0))

/-- **One validation** keeps the guard and fails over as it may. -/
theorem Guarded.step (h : t.Guarded) {e : SystemError}
    (heq : t.state.validate r = .ok (e, s')) :
    let t' : WatchedClock := ⟨s', t.differed + if t.state.TimesDiffer r then 1 else 0⟩
    FailsOver t t' ∧ t'.Guarded := by
  obtain ⟨k, hk, -⟩ := h.phase.active
  have hv := TimeState.validated_of_ok ⟨k, hk⟩ heq
  have hinit' : s'.initialized 1 = true := by
    rw [TimeState.initialized, hv.same.initialized]
    exact h.initialized
  obtain ⟨hsoftware', hunblamed'⟩ := h.software_kept hv
  have hnotLost {k : Fin 3} {P : Prop} (hkept : s'.healthy k = true)
      (hlost : s'.healthy k = false) : P :=
    (Bool.false_ne_true (hlost.symm.trans hkept)).elim
  have hnever {k : Fin 3} {P : Prop} (hlost : t.state.healthy k = false)
      (hhad : t.state.healthy k = true) : P :=
    (Bool.false_ne_true (hlost.symm.trans hhad)).elim
  cases h.phase with
  | both hprimary hsecondary hactive hlow₀ hlow₁ hcounted =>
      obtain ⟨hphase', hthreshold⟩ :=
        Phase.step_both heq h.initialized hprimary hsecondary hactive hlow₀ hlow₁ hcounted
      refine ⟨hphase'.failsOver hv ?_ ?_, hinit', hsoftware', hunblamed', hphase'⟩
      · intro j k hj _
        rw [active_unique hj hactive]
        exact Fin.zero_le k
      · rcases hthreshold with ⟨hkept₀, hkept₁⟩ | hfour
        · exact forall_source (fun _ => hnotLost hkept₀) (fun _ => hnotLost hkept₁)
            (fun _ => hnotLost hsoftware')
        · exact fun _ _ _ => hfour
  | secondary hprimary hsecondary hactive hlow =>
      obtain ⟨hkept, hlost, hstays, hlow'⟩ :=
        Phase.stays hv (fun hdiffer => hdiffer.2.1) hprimary hsecondary hactive hlow
      have hphase' : Phase s' (t.differed + if t.state.TimesDiffer r then 1 else 0) :=
        .secondary hlost hkept hstays hlow'
      refine ⟨hphase'.failsOver hv ?_ ?_, hinit', hsoftware', hunblamed', hphase'⟩
      · intro j k hj hk'
        rw [active_unique hj hactive, active_unique hk' hstays]
      · exact forall_source (fun hhad _ => hnever hprimary hhad) (fun _ => hnotLost hkept)
          (fun _ => hnotLost hsoftware')
  | primary hprimary hsecondary hactive hlow =>
      obtain ⟨hkept, hlost, hstays, hlow'⟩ :=
        Phase.stays hv (fun hdiffer => hdiffer.2.2.1) hsecondary hprimary hactive hlow
      have hphase' : Phase s' (t.differed + if t.state.TimesDiffer r then 1 else 0) :=
        .primary hkept hlost hstays hlow'
      refine ⟨hphase'.failsOver hv ?_ ?_, hinit', hsoftware', hunblamed', hphase'⟩
      · intro j k hj _
        rw [active_unique hj hactive]
        exact Fin.zero_le k
      · exact forall_source (fun _ => hnotLost hkept) (fun hhad _ => hnever hsecondary hhad)
          (fun _ => hnotLost hsoftware')

end WatchedClock

/-! ## whole runs -/

/-- All sources are initialised and healthy, none was ever blamed, and the
primary one is active. -/
structure TimeState.AllHealthy (s : TimeState) : Prop where
  initialized : ∀ k, s.initialized k = true
  healthy : ∀ k, s.healthy k = true
  unblamed : ∀ k, s.failCount k = 0
  active : s.Active 0

open WatchedClock

theorem TimeState.AllHealthy.guarded {s : TimeState} (h : s.AllHealthy) :
    Guarded ⟨s, 0⟩ where
  initialized := h.initialized 1
  software := h.healthy 2
  unblamed := h.unblamed 2
  phase := by
    have hzero (k : Fin 3) : (s.failCount k).toNat = 0 := by
      rw [h.unblamed]
      rfl
    have hlow (k : Fin 3) : s.failCount k ≤ 3 := by
      rw [UInt32.le_iff_toNat_le, hzero]
      exact Nat.zero_le 3
    refine .both (h.healthy 0) (h.healthy 1) h.active (hlow 0) (hlow 1) ?_
    rw [hzero, hzero]

/-- A validation of a guarded clock that returns. -/
theorem WatchedClock.Guarded.returns {t t' : WatchedClock} {r : TimeReadings} {e : SystemError}
    (h : t.Guarded) (heq : t.validate r = .ok (e, t')) : FailsOver t t' ∧ t'.Guarded := by
  rw [WatchedClock.validate] at heq
  cases hvalidate : t.state.validate r with
  | ok result =>
      rw [hvalidate, Outcome.ok_bind] at heq
      cases heq
      exact h.step hvalidate
  | undefined =>
      rw [hvalidate] at heq
      cases heq
  | outOfFuel =>
      rw [hvalidate] at heq
      cases heq

/-- **Failover is sticky and bounded** in every run of validations from a state
in which all is well; and such a run is defined if the hardware sources have
frequencies. -/
theorem failover_sticky_bounded (s : TimeState) (h : s.AllHealthy) (readings : List TimeReadings) :
    Along WatchedClock.validate (fun t _ _ t' => FailsOver t t') ⟨s, 0⟩ readings ∧
      (s.frequency 0 ≠ 0 ∧ s.frequency 1 ≠ 0 →
        Always WatchedClock.validate (fun t _ _ t' => FailsOver t t') ⟨s, 0⟩ readings) := by
  constructor
  · exact along_of_invariant (fun _ _ _ _ hguarded heq => hguarded.returns heq) h.guarded readings
  · intro hfrequency
    have hstep (t : WatchedClock) (r : TimeReadings)
        (ht : t.Guarded ∧ t.state.frequency 0 ≠ 0 ∧ t.state.frequency 1 ≠ 0) (_ : True) :
        ∃ e t', t.validate r = .ok (e, t') ∧ FailsOver t t' ∧
          t'.Guarded ∧ t'.state.frequency 0 ≠ 0 ∧ t'.state.frequency 1 ≠ 0 := by
      obtain ⟨hguarded, htimer, hrtc⟩ := ht
      obtain ⟨k, hk, -⟩ := hguarded.phase.active
      have hsane : t.state.Sane := ⟨⟨k, hk⟩, fun _ => htimer, fun _ => hrtc⟩
      obtain ⟨s', heq, hv⟩ := TimeState.validate_spec hsane r
      have hsame (k : Fin 3) : s'.frequency k = t.state.frequency k := by
        rw [TimeState.frequency, hv.same.frequency, TimeState.frequency]
      obtain ⟨hfails, hguarded'⟩ := hguarded.step heq
      refine ⟨timeErrorSuccess, _, ?_, hfails, hguarded', ?_, ?_⟩
      · rw [WatchedClock.validate, heq, Outcome.ok_bind]
        rfl
      · exact (hsame 0).symm ▸ htimer
      · exact (hsame 1).symm ▸ hrtc
    exact always_of_invariant hstep ⟨h.guarded, hfrequency⟩ fun _ _ => trivial

/-- The sources as `kernel_time_init` enters them are all well. -/
theorem allHealthy_sourcesReady : sourcesReady.AllHealthy where
  initialized k := by
    match k with
    | 0 => rfl
    | 1 => rfl
    | 2 => rfl
  healthy k := by
    match k with
    | 0 => rfl
    | 1 => rfl
    | 2 => rfl
  unblamed k := by
    match k with
    | 0 => rfl
    | 1 => rfl
    | 2 => rfl
  active := rfl

/-- Four validations with an RTC that stands still, after initialisation. -/
theorem failover_sticky_bounded_stalledRtc :
    Along WatchedClock.validate (fun t _ _ t' => FailsOver t t') ⟨sourcesReady, 0⟩
        (stalledRtc.map TimedReadings.toTimeReadings) ∧
      Always WatchedClock.validate (fun t _ _ t' => FailsOver t t') ⟨sourcesReady, 0⟩
        (stalledRtc.map TimedReadings.toTimeReadings) :=
  (failover_sticky_bounded sourcesReady allHealthy_sourcesReady _).imp_right
    fun hruns => hruns ⟨by decide, by decide⟩

end AutoMlos
