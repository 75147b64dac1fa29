import AutoMlos.KernelTime
import AutoMlos.Lib.Run

/-!
# AutoMlos.KernelTime.Validation

What a validation of the time sources does.

`TimeState.blamed` is the source whose failure count it raises, and
`TimeState.validate_spec` says what becomes of the counts, the health of the
sources and the active source.
-/

namespace AutoMlos

open Lib

/-- What a validation reads of the hardware in a state. -/
def HwClocks.readings (hw : HwClocks) (currentTime : UInt64) (s : TimeState) : TimeReadings where
  currentTime
  timer := hw.timer s.timerReads
  rtc := hw.rtc s.rtcReads

namespace TimeState

/-! ## the sources by index -/

def healthy (s : TimeState) (k : Fin 3) : Bool := s.ctx.sourceHealthy.get k

def initialized (s : TimeState) (k : Fin 3) : Bool := s.ctx.sourceInitialized.get k

def failCount (s : TimeState) (k : Fin 3) : UInt32 := s.ctx.sourceFailCount.get k

def frequency (s : TimeState) (k : Fin 3) : UInt64 := s.ctx.tickFrequency.get k

def boot (s : TimeState) (k : Fin 3) : UInt64 := s.ctx.bootTimeTicks.get k

/-- The active source is the one with index `k`. -/
def Active (s : TimeState) (k : Fin 3) : Prop := s.ctx.activeSource = .ofFin k

/-! ## who is blamed -/

/-- The microseconds since boot that a counter reading of source `k` stands
for. -/
def microseconds (s : TimeState) (k : Fin 3) (counter : UInt64) : UInt64 :=
  UInt64.ofNat (((counter - s.boot k) * 1000000).toNat / (s.frequency k).toNat)

/-- The time a validation takes for source `k`: 0 if it is not healthy. -/
def time (s : TimeState) (k : Fin 3) (counter : UInt64) : UInt64 :=
  if s.healthy k then s.microseconds k counter else 0

/-- The context with the time of a validation entered. -/
def stamp (s : TimeState) (r : TimeReadings) : TimeState :=
  { s with ctx := { s.ctx with lastValidationTime := r.currentTime } }

/-- The state after the healthy hardware sources were read. -/
def afterReads (s : TimeState) : TimeState :=
  { s with
    timerReads := if s.healthy 0 then s.timerReads + 1 else s.timerReads
    rtcReads := if s.healthy 1 then s.rtcReads + 1 else s.rtcReads }

/-- The state in which a due validation looks at the active source: the times
are compared and the counts checked. -/
def checked (s : TimeState) (r : TimeReadings) : TimeState :=
  (List.finRange 3).foldl checkFailCount
    (checkDrift (s.time 0 r.timer) (s.time 1 r.rtc) (s.stamp r).afterReads)

/-- The validation interval is over. -/
def Due (s : TimeState) (r : TimeReadings) : Prop :=
  ¬ r.currentTime - s.ctx.lastValidationTime < timeSourceValidationIntervalUs

instance (s : TimeState) (r : TimeReadings) : Decidable (s.Due r) :=
  inferInstanceAs (Decidable (¬ _))

/-- The distance of the two hardware times. -/
def drift (primary secondary : UInt64) : UInt64 :=
  if primary > secondary then primary - secondary else secondary - primary

/-- The source a comparison blames: the one that is ahead. -/
def ahead (primary secondary : UInt64) : Fin 3 := if primary > secondary then 0 else 1

/-- The source whose failure count a validation raises. -/
def blamed (s : TimeState) (r : TimeReadings) : Option (Fin 3) :=
  if s.Due r ∧ s.healthy 0 ∧ s.healthy 1 ∧
      drift (s.microseconds 0 r.timer) (s.microseconds 1 r.rtc) > maxTimeDriftUs then
    some (ahead (s.microseconds 0 r.timer) (s.microseconds 1 r.rtc))
  else none

/-- What a validation needs to be defined: an active source, and a frequency
of each healthy hardware source. -/
structure Sane (s : TimeState) : Prop where
  active : ∃ k, s.Active k
  timer : s.healthy 0 = true → s.frequency 0 ≠ 0
  rtc : s.healthy 1 = true → s.frequency 1 ≠ 0

/-- What no validation touches. -/
structure SameSources (s s' : TimeState) : Prop where
  boot : s'.ctx.bootTimeTicks = s.ctx.bootTimeTicks
  frequency : s'.ctx.tickFrequency = s.ctx.tickFrequency
  initialized : s'.ctx.sourceInitialized = s.ctx.sourceInitialized

/-- **What a validation leaves**: counts raised by one for the blamed source,
sources above three failures unhealthy, and an active source that is replaced
only if it is not healthy. -/
structure Validated (s : TimeState) (r : TimeReadings) (s' : TimeState) : Prop where
  same : SameSources s s'
  failCount : ∀ k, s'.failCount k = s.failCount k + if s.blamed r = some k then 1 else 0
  healthy : ∀ k, s'.healthy k = true ↔ s.healthy k = true ∧ (s.Due r → ¬ s'.failCount k > 3)
  active : ∀ k, s.Active k → (¬ s.Due r ∨ s'.healthy k = true) → s'.Active k
  switched : ∀ k, s.Active k → s.Due r → s'.healthy k = false →
    (∃ j, s'.healthy j = true ∧ s'.initialized j = true) →
    ∃ j, s'.Active j ∧ s'.healthy j = true ∧ s'.initialized j = true

/-! ## the stages -/

theorem SameSources.refl (s : TimeState) : SameSources s s := ⟨rfl, rfl, rfl⟩

theorem SameSources.trans {s₀ s₁ s₂ : TimeState} (h : SameSources s₀ s₁)
    (h' : SameSources s₁ s₂) : SameSources s₀ s₂ :=
  ⟨h'.boot.trans h.boot, h'.frequency.trans h.frequency, h'.initialized.trans h.initialized⟩

section Stages

variable {s : TimeState} {r : TimeReadings} {hw : HwClocks} {p q : UInt64} {k : Fin 3}

theorem elapsedUs_of_ne_zero {counter boot frequency : UInt64} (h : frequency ≠ 0) :
    elapsedUs counter boot frequency =
      .ok (UInt64.ofNat (((counter - boot) * 1000000).toNat / frequency.toNat)) := by
  have hne : frequency.toNat ≠ 0 := fun hzero => h (UInt64.toNat_inj.mp hzero)
  simp only [elapsedUs, Outcome.udiv, if_neg hne, Outcome.ok_bind, Outcome.pure_eq_ok]

/-- The time of the primary source is the microseconds of its reading, or 0
when it is not healthy. -/
theorem primaryTime_eq (h : s.healthy 0 = true → s.frequency 0 ≠ 0) :
    primaryTime hw s =
      .ok (s.time 0 (hw.timer s.timerReads),
        { s with timerReads := if s.healthy 0 then s.timerReads + 1 else s.timerReads }) := by
  cases hhealthy : s.healthy 0 with
  | false =>
      have hread : s.ctx.sourceHealthy[0] = false := hhealthy
      simp [primaryTime, time, hhealthy, hread]
  | true =>
      have hread : s.ctx.sourceHealthy[0] = true := hhealthy
      have hfrequency : s.ctx.tickFrequency[0] ≠ 0 := h hhealthy
      simp only [primaryTime, hread, if_true, hwTimerGetCounter, elapsedUs_of_ne_zero hfrequency,
        Outcome.ok_bind, Outcome.pure_eq_ok, time, hhealthy]
      rfl

/-- The time of the secondary source likewise. -/
theorem secondaryTime_eq (h : s.healthy 1 = true → s.frequency 1 ≠ 0) :
    secondaryTime hw s =
      .ok (s.time 1 (hw.rtc s.rtcReads),
        { s with rtcReads := if s.healthy 1 then s.rtcReads + 1 else s.rtcReads }) := by
  cases hhealthy : s.healthy 1 with
  | false =>
      have hread : s.ctx.sourceHealthy[1] = false := hhealthy
      simp [secondaryTime, time, hhealthy, hread]
  | true =>
      have hread : s.ctx.sourceHealthy[1] = true := hhealthy
      have hfrequency : s.ctx.tickFrequency[1] ≠ 0 := h hhealthy
      simp only [secondaryTime, hread, if_true, hwRtcGetCounter, elapsedUs_of_ne_zero hfrequency,
        Outcome.ok_bind, Outcome.pure_eq_ok, time, hhealthy]
      rfl

/-- The comparison of two times leaves the health of the sources and the
active one. -/
theorem checkDrift_frame (p q : UInt64) (s : TimeState) :
    SameSources s (checkDrift p q s) ∧
      (checkDrift p q s).ctx.sourceHealthy = s.ctx.sourceHealthy ∧
      (checkDrift p q s).ctx.activeSource = s.ctx.activeSource := by
  unfold checkDrift
  split
  · dsimp only
    split <;> split <;> exact ⟨⟨rfl, rfl, rfl⟩, rfl, rfl⟩
  · exact ⟨⟨rfl, rfl, rfl⟩, rfl, rfl⟩

/-- It raises the count of the source that is ahead when both are healthy and
far apart. -/
theorem checkDrift_failCount (p q : UInt64) (s : TimeState) (k : Fin 3) :
    (checkDrift p q s).failCount k = s.failCount k +
      if (s.healthy 0 ∧ s.healthy 1 ∧ drift p q > maxTimeDriftUs) ∧ ahead p q = k then 1
      else 0 := by
  by_cases hhealthy : s.healthy 0 ∧ s.healthy 1
  · by_cases hdrift : drift p q > maxTimeDriftUs
    · have hraised : checkDrift p q s = _ := (if_pos hhealthy).trans (if_pos hdrift)
      rw [hraised]
      change (s.ctx.sourceFailCount.set (ahead p q) (s.failCount (ahead p q) + 1)).get k = _
      rw [get_set]
      by_cases hk : ahead p q = k
      · rw [if_pos hk, if_pos ⟨⟨hhealthy.1, hhealthy.2, hdrift⟩, hk⟩, hk]
      · rw [if_neg hk, if_neg fun h => hk h.2, UInt32.add_zero, failCount]
    · have hquiet : checkDrift p q s = _ := (if_pos hhealthy).trans (if_neg hdrift)
      rw [hquiet]
      change s.failCount k = _
      rw [if_neg fun h => hdrift h.1.2.2, UInt32.add_zero]
  · have hskipped : checkDrift p q s = s := if_neg hhealthy
    rw [hskipped, if_neg fun h => hhealthy ⟨h.1.1, h.1.2.1⟩, UInt32.add_zero]

/-- The failure threshold changes the health of a source only. -/
theorem checkFailCount_frame (s : TimeState) (i : Fin 3) :
    SameSources s (checkFailCount s i) ∧
      (checkFailCount s i).ctx.sourceFailCount = s.ctx.sourceFailCount ∧
      (checkFailCount s i).ctx.activeSource = s.ctx.activeSource := by
  unfold checkFailCount
  split <;> exact ⟨⟨rfl, rfl, rfl⟩, rfl, rfl⟩

/-- Above the threshold the source is no longer healthy. -/
theorem checkFailCount_healthy (s : TimeState) (i k : Fin 3) :
    (checkFailCount s i).healthy k = true ↔
      s.healthy k = true ∧ (i = k → ¬ s.failCount k > 3) := by
  by_cases hcount : s.failCount i > 3
  · have hset : checkFailCount s i = _ := if_pos hcount
    rw [hset]
    change (s.ctx.sourceHealthy.set i false).get k = true ↔ _
    rw [get_set]
    by_cases hk : i = k
    · subst hk
      simp [hcount]
    · simp [hk, healthy]
  · have hkept : checkFailCount s i = s := if_neg hcount
    rw [hkept]
    constructor
    · intro h
      exact ⟨h, by rintro rfl; exact hcount⟩
    · exact And.left

/-- The thresholds of a list of sources. -/
theorem checkFailCounts_spec (is : List (Fin 3)) (s : TimeState) :
    SameSources s (is.foldl checkFailCount s) ∧
      (is.foldl checkFailCount s).ctx.sourceFailCount = s.ctx.sourceFailCount ∧
      (is.foldl checkFailCount s).ctx.activeSource = s.ctx.activeSource ∧
      ∀ k, (is.foldl checkFailCount s).healthy k = true ↔
        s.healthy k = true ∧ (k ∈ is → ¬ s.failCount k > 3) := by
  induction is generalizing s with
  | nil => exact ⟨.refl s, rfl, rfl, fun k => by simp⟩
  | cons i is ih =>
      obtain ⟨hsame, hcount, hactive⟩ := checkFailCount_frame s i
      obtain ⟨hsames, hcounts, hactives, hhealthys⟩ := ih (checkFailCount s i)
      refine ⟨hsame.trans hsames, hcounts.trans hcount, hactives.trans hactive, fun k => ?_⟩
      have hread : (checkFailCount s i).failCount k = s.failCount k := by
        rw [failCount, hcount, failCount]
      rw [List.foldl_cons, hhealthys, checkFailCount_healthy, hread, List.mem_cons]
      constructor
      · rintro ⟨⟨hhealthy, hfirst⟩, hrest⟩
        refine ⟨hhealthy, ?_⟩
        rintro (rfl | hmem)
        · exact hfirst rfl
        · exact hrest hmem
      · rintro ⟨hhealthy, hall⟩
        exact ⟨⟨hhealthy, fun heq => hall (.inl heq.symm)⟩, fun hmem => hall (.inr hmem)⟩

@[simp] theorem value_ofFin (k : Fin 3) : (TimeSource.ofFin k).value = k := by
  match k with
  | 0 => rfl
  | 1 => rfl
  | 2 => rfl

theorem ofFin_injective {j k : Fin 3} (h : TimeSource.ofFin j = .ofFin k) : j = k :=
  Fin.ext (by rw [← value_ofFin j, ← value_ofFin k, h])

/-- A flag of the active source, read through its enumerator. -/
theorem readAt_active {v : Vector Bool 3} (h : s.Active k) :
    Outcome.readAt v s.ctx.activeSource.value = .ok (v.get k) := by
  rw [h, value_ofFin, Outcome.readAt_of_lt v k.isLt]
  rfl

/-- The switch keeps a healthy active source and else looks for a usable one. -/
theorem switchSource_spec (h : s.Active k) : ∃ s', switchSource s = .ok s' ∧
    SameSources s s' ∧ s'.ctx.sourceFailCount = s.ctx.sourceFailCount ∧
    s'.ctx.sourceHealthy = s.ctx.sourceHealthy ∧ (s.healthy k = true → s'.Active k) ∧
    (s.healthy k = false → (∃ j, s.healthy j = true ∧ s.initialized j = true) →
      ∃ j, s'.Active j ∧ s.healthy j = true ∧ s.initialized j = true) := by
  simp only [switchSource, readAt_active h, Outcome.ok_bind, Outcome.pure_eq_ok]
  cases hhealthy : s.healthy k with
  | true =>
      have hread : s.ctx.sourceHealthy.get k = true := hhealthy
      rw [if_pos hread]
      exact ⟨s, rfl, .refl s, rfl, rfl, fun _ => h, by rintro ⟨⟩⟩
  | false =>
      have hread : ¬ s.ctx.sourceHealthy.get k = true := by
        rw [← healthy, hhealthy]
        exact Bool.false_ne_true
      rw [if_neg hread]
      cases hfound : (List.finRange 3).find? fun i =>
          s.ctx.sourceHealthy[i] && s.ctx.sourceInitialized[i] with
      | none =>
          refine ⟨s, rfl, .refl s, rfl, rfl, by rintro ⟨⟩, ?_⟩
          rintro - ⟨j, hj, hinit⟩
          have husable := List.find?_eq_none.mp hfound j (List.mem_finRange j)
          exact absurd (Bool.and_eq_true _ _ ▸ ⟨hj, hinit⟩) husable
      | some j =>
          have husable := List.find?_some hfound
          rw [Bool.and_eq_true] at husable
          exact ⟨_, rfl, ⟨rfl, rfl, rfl⟩, rfl, rfl, by rintro ⟨⟩,
            fun _ _ => ⟨j, rfl, husable.1, husable.2⟩⟩

/-- A validation before its interval is over changes nothing. -/
theorem validateTimeSourcesAt_of_not_due {currentTime : UInt64}
    (h : ¬ s.Due (hw.readings currentTime s)) :
    validateTimeSourcesAt hw currentTime s = .ok (timeErrorSuccess, s) :=
  if_pos (not_not.mp h)

theorem validated_of_not_due (h : ¬ s.Due r) : s.Validated r s where
  same := .refl s
  failCount k := by
    have hnone : s.blamed r = none := if_neg fun hblamed => h hblamed.1
    rw [hnone, if_neg (by rintro ⟨⟩), UInt32.add_zero]
  healthy k := ⟨fun hhealthy => ⟨hhealthy, fun hdue => absurd hdue h⟩, And.left⟩
  active _ hactive _ := hactive
  switched _ _ hdue := absurd hdue h

/-- The source blamed is the one that is ahead of the other by more than the
allowed drift. -/
theorem blamed_eq_some_iff : s.blamed r = some k ↔ s.Due r ∧
    (s.healthy 0 ∧ s.healthy 1 ∧
      drift (s.microseconds 0 r.timer) (s.microseconds 1 r.rtc) > maxTimeDriftUs) ∧
    ahead (s.microseconds 0 r.timer) (s.microseconds 1 r.rtc) = k := by
  unfold blamed
  constructor
  · intro h
    split at h
    · next hblamed => exact ⟨hblamed.1, hblamed.2, Option.some.inj h⟩
    · cases h
  · rintro ⟨hdue, hfar, rfl⟩
    rw [if_pos ⟨hdue, hfar⟩]

/-- The two readings of a validation, and what follows them. -/
theorem readTimes_eq (h : s.Sane) {α : Type} (f : UInt64 → UInt64 → TimeState → Outcome α) :
    (primaryTime hw s >>= fun p => secondaryTime hw p.2 >>= fun q => f p.1 q.1 q.2) =
      f (s.time 0 (hw.timer s.timerReads)) (s.time 1 (hw.rtc s.rtcReads)) s.afterReads := by
  have hread (n : Nat) : { s with timerReads := n }.healthy 1 = true →
      { s with timerReads := n }.frequency 1 ≠ 0 := h.rtc
  rw [primaryTime_eq h.timer, Outcome.ok_bind, secondaryTime_eq (hread _), Outcome.ok_bind]
  rfl

/-- A due validation compares the times and then looks at the counts and at the
active source. -/
theorem validateTimeSourcesAt_of_due (h : s.Sane) {currentTime : UInt64}
    (hr : hw.readings currentTime s = r) (hdue : s.Due r) :
    validateTimeSourcesAt hw currentTime s =
      switchSource (s.checked r) >>= fun s' => .ok (timeErrorSuccess, s') := by
  subst hr
  have hskip : ¬ currentTime - s.ctx.lastValidationTime < timeSourceValidationIntervalUs := hdue
  have hstamp : (s.stamp (hw.readings currentTime s)).Sane := ⟨h.active, h.timer, h.rtc⟩
  rw [validateTimeSourcesAt, if_neg hskip]
  exact readTimes_eq hstamp fun p q s₁ =>
    switchSource ((List.finRange 3).foldl checkFailCount (checkDrift p q s₁)) >>=
      fun s' => .ok (timeErrorSuccess, s')

/-- In a due validation the blame is read off the times it takes. -/
theorem blamed_of_due (hdue : s.Due r) : s.blamed r = some k ↔
    (s.healthy 0 ∧ s.healthy 1 ∧ drift (s.time 0 r.timer) (s.time 1 r.rtc) > maxTimeDriftUs) ∧
      ahead (s.time 0 r.timer) (s.time 1 r.rtc) = k := by
  rw [blamed_eq_some_iff]
  constructor
  · rintro ⟨-, ⟨hprimary, hsecondary, hfar⟩, hahead⟩
    rw [time, time, if_pos hprimary, if_pos hsecondary]
    exact ⟨⟨hprimary, hsecondary, hfar⟩, hahead⟩
  · rintro ⟨⟨hprimary, hsecondary, hfar⟩, hahead⟩
    rw [time, time, if_pos hprimary, if_pos hsecondary] at hfar hahead
    exact ⟨hdue, ⟨hprimary, hsecondary, hfar⟩, hahead⟩

/-- What the comparison of the times and the thresholds leave. -/
theorem checked_spec (hdue : s.Due r) :
    SameSources s (s.checked r) ∧ (s.checked r).ctx.activeSource = s.ctx.activeSource ∧
      (∀ j, (s.checked r).failCount j =
        s.failCount j + if s.blamed r = some j then 1 else 0) ∧
      ∀ j, (s.checked r).healthy j = true ↔
        s.healthy j = true ∧ ¬ (s.checked r).failCount j > 3 := by
  obtain ⟨hsame₁, hhealthy₁, hactive₁⟩ :=
    checkDrift_frame (s.time 0 r.timer) (s.time 1 r.rtc) (s.stamp r).afterReads
  have hcount₁ (j : Fin 3) := checkDrift_failCount (s.time 0 r.timer) (s.time 1 r.rtc)
    (s.stamp r).afterReads j
  unfold checked
  generalize checkDrift (s.time 0 r.timer) (s.time 1 r.rtc) (s.stamp r).afterReads = compared
    at hsame₁ hhealthy₁ hactive₁ hcount₁
  obtain ⟨hsame₂, hcount₂, hactive₂, hhealthy₂⟩ :=
    checkFailCounts_spec (List.finRange 3) compared
  have hcount (j : Fin 3) :
      ((List.finRange 3).foldl checkFailCount compared).failCount j = compared.failCount j := by
    rw [failCount, hcount₂, failCount]
  have hkept (j : Fin 3) : compared.healthy j = s.healthy j := by
    rw [healthy, hhealthy₁]
    rfl
  refine ⟨SameSources.trans ⟨hsame₁.boot, hsame₁.frequency, hsame₁.initialized⟩ hsame₂,
    hactive₂.trans hactive₁, fun j => ?_, fun j => ?_⟩
  · rw [hcount, hcount₁]
    exact congrArg (s.failCount j + ·) (if_congr (blamed_of_due hdue).symm rfl rfl)
  · rw [hhealthy₂, hkept, hcount]
    exact and_congr_right' ⟨fun hlow => hlow (List.mem_finRange j), fun hlow _ => hlow⟩

/-- The effect of a due validation. -/
theorem validated_of_due (h : s.Sane) (hk : s.Active k) {currentTime : UInt64}
    (hr : hw.readings currentTime s = r) (hdue : s.Due r) :
    ∃ s', validateTimeSourcesAt hw currentTime s = .ok (timeErrorSuccess, s') ∧
      s.Validated r s' := by
  rw [validateTimeSourcesAt_of_due h hr hdue]
  obtain ⟨hsame₁, hactive₁, hcount₁, hhealthy₁⟩ := checked_spec hdue
  have hchecked : (s.checked r).Active k := hactive₁.trans hk
  obtain ⟨s', heq, hsame₂, hcount₂, hhealthy₂, hkept, hswitched⟩ := switchSource_spec hchecked
  have hhealthy (j : Fin 3) : s'.healthy j = (s.checked r).healthy j := by
    rw [healthy, hhealthy₂, healthy]
  have hcount (j : Fin 3) : s'.failCount j = (s.checked r).failCount j := by
    rw [failCount, hcount₂, failCount]
  have hinitialized (j : Fin 3) : s'.initialized j = (s.checked r).initialized j := by
    rw [initialized, hsame₂.initialized, initialized]
  refine ⟨s', by rw [heq, Outcome.ok_bind], hsame₁.trans hsame₂, ?_, ?_, ?_, ?_⟩
  · intro j
    rw [hcount, hcount₁]
  · intro j
    rw [hhealthy, hhealthy₁, hcount]
    exact and_congr_right' ⟨fun hlow _ => hlow, fun hlow => hlow hdue⟩
  · intro j hj hor
    obtain rfl : j = k := ofFin_injective (hj.symm.trans hk)
    exact hkept ((hhealthy j).symm.trans (hor.resolve_left (not_not.mpr hdue)))
  · rintro j hj - hunhealthy ⟨i, hi, hinit⟩
    obtain rfl : j = k := ofFin_injective (hj.symm.trans hk)
    rw [hhealthy] at hunhealthy hi
    rw [hinitialized] at hinit
    obtain ⟨l, hactive, husable, hready⟩ := hswitched hunhealthy ⟨i, hi, hinit⟩
    exact ⟨l, hactive, (hhealthy l).trans husable, (hinitialized l).trans hready⟩

/-- **What a validation does** with what the hardware answers. -/
theorem validateTimeSourcesAt_spec (h : s.Sane) (hw : HwClocks) (currentTime : UInt64) :
    ∃ s', validateTimeSourcesAt hw currentTime s = .ok (timeErrorSuccess, s') ∧
      s.Validated (hw.readings currentTime s) s' := by
  obtain ⟨k, hk⟩ := h.active
  by_cases hdue : s.Due (hw.readings currentTime s)
  · exact validated_of_due h hk rfl hdue
  · exact ⟨s, validateTimeSourcesAt_of_not_due hdue, validated_of_not_due hdue⟩

/-- What a validation with given readings does. -/
theorem validate_spec (h : s.Sane) (r : TimeReadings) :
    ∃ s', s.validate r = .ok (timeErrorSuccess, s') ∧ s.Validated r s' :=
  validateTimeSourcesAt_spec h ⟨fun _ => r.timer, fun _ => r.rtc⟩ r.currentTime

end Stages

end TimeState

end AutoMlos
