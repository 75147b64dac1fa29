import AutoMlos.KernelTime.Usable

/-!
# AutoMlos.KernelTime.Blame

Which source a fault disqualifies.

`validate_time_sources` blames the source that is ahead.  An exact source is
ahead of one that stalls or lags, so the fault of the other source raises the
count of the exact one: `blamed_eq_some_iff_lags`.  A source is given up at
the fourth such blame, which makes three the number an exact source survives.
-/

namespace AutoMlos

open Lib

/-- The counter reading of a hardware source. -/
def TimeReadings.counter (r : TimeReadings) : Fin 3 → UInt64
  | 0 => r.timer
  | 1 => r.rtc
  | 2 => 0

/-- The readings of a validation, and the microseconds that have elapsed since
boot when it takes them. -/
structure TimedReadings extends TimeReadings where
  elapsed : Nat
  deriving DecidableEq, Repr

/-- The hardware source next to `k`. -/
def otherSource : Fin 3 → Fin 3
  | 0 => 1
  | 1 => 0
  | 2 => 2

namespace TimeState

/-- One validation at a known time. -/
def validateTimed (s : TimeState) (r : TimedReadings) : Outcome (SystemError × TimeState) :=
  s.validate r.toTimeReadings

/-- Source `k` is exact: if this validation reads it, its time is the time that
has elapsed. -/
def Exact (k : Fin 3) (s : TimeState) (r : TimedReadings) : Prop :=
  s.Due r.toTimeReadings → s.healthy k = true →
    (s.microseconds k (r.counter k)).toNat = r.elapsed

/-- Source `k` is still healthy, and active if it is the primary one. -/
def Kept (k : Fin 3) (s : TimeState) : Prop :=
  s.healthy k = true ∧ (k = 0 → s.ctx.activeSource = .primary)

instance (k : Fin 3) (s : TimeState) (r : TimedReadings) : Decidable (s.Exact k r) :=
  inferInstanceAs (Decidable (_ → _ → _))

instance (k : Fin 3) (s : TimeState) : Decidable (s.Kept k) :=
  inferInstanceAs (Decidable (_ ∧ (_ → _)))

/-- This validation compares both hardware sources and finds source `k` more
than a millisecond behind the time that has elapsed. -/
def Lags (k : Fin 3) (s : TimeState) (r : TimedReadings) : Prop :=
  s.Due r.toTimeReadings ∧ s.healthy 0 = true ∧ s.healthy 1 = true ∧
    (s.microseconds k (r.counter k)).toNat + 1000 < r.elapsed

/-! ## the direction of the blame -/

/-- The primary source is blamed when it is ahead by more than a millisecond. -/
theorem ahead_primary_iff (p q : UInt64) :
    drift p q > maxTimeDriftUs ∧ ahead p q = 0 ↔ q.toNat + 1000 < p.toNat := by
  have hmax : maxTimeDriftUs.toNat = 1000 := rfl
  unfold drift ahead
  by_cases h : p > q
  · have hle : q ≤ p := UInt64.le_of_lt h
    have hle' : q.toNat ≤ p.toNat := UInt64.le_iff_toNat_le.mp hle
    rw [if_pos h, if_pos h, gt_iff_lt, UInt64.lt_iff_toNat_lt, UInt64.toNat_sub_of_le _ _ hle, hmax]
    simp only [and_true]
    omega
  · have hle' : p.toNat ≤ q.toNat := UInt64.le_iff_toNat_le.mp (UInt64.not_lt.mp h)
    rw [if_neg h, if_neg h]
    exact ⟨fun hfar => absurd hfar.2 (by decide), fun hfar => by omega⟩

/-- The secondary source is blamed when it is ahead by more than a
millisecond. -/
theorem ahead_secondary_iff (p q : UInt64) :
    drift p q > maxTimeDriftUs ∧ ahead p q = 1 ↔ p.toNat + 1000 < q.toNat := by
  have hmax : maxTimeDriftUs.toNat = 1000 := rfl
  unfold drift ahead
  by_cases h : p > q
  · have hlt : q.toNat < p.toNat := UInt64.lt_iff_toNat_lt.mp h
    rw [if_pos h, if_pos h]
    exact ⟨fun hfar => absurd hfar.2 (by decide), fun hfar => by omega⟩
  · have hle : p ≤ q := UInt64.not_lt.mp h
    have hle' : p.toNat ≤ q.toNat := UInt64.le_iff_toNat_le.mp hle
    rw [if_neg h, if_neg h, gt_iff_lt, UInt64.lt_iff_toNat_lt, UInt64.toNat_sub_of_le _ _ hle, hmax]
    simp only [and_true]
    omega

/-- **The blame goes to the source that is ahead** by more than a
millisecond. -/
theorem blamed_eq_some_iff_ahead {s : TimeState} {r : TimeReadings} {k : Fin 3} (hk : k ≠ 2) :
    s.blamed r = some k ↔ s.Due r ∧ s.healthy 0 = true ∧ s.healthy 1 = true ∧
      (s.microseconds (otherSource k) (r.counter (otherSource k))).toNat + 1000 <
        (s.microseconds k (r.counter k)).toNat := by
  have hsides : drift (s.microseconds 0 r.timer) (s.microseconds 1 r.rtc) > maxTimeDriftUs ∧
      ahead (s.microseconds 0 r.timer) (s.microseconds 1 r.rtc) = k ↔
      (s.microseconds (otherSource k) (r.counter (otherSource k))).toNat + 1000 <
        (s.microseconds k (r.counter k)).toNat := by
    match k with
    | 0 => exact ahead_primary_iff _ _
    | 1 => exact ahead_secondary_iff _ _
    | 2 => exact absurd rfl hk
  rw [blamed_eq_some_iff, ← hsides]
  tauto

/-- An exact source is blamed when the other one lags. -/
theorem blamed_eq_some_iff_lags {s : TimeState} {r : TimedReadings} {k : Fin 3} (hk : k ≠ 2)
    (hexact : s.Exact k r) :
    s.blamed r.toTimeReadings = some k ↔ s.Lags (otherSource k) r := by
  rw [blamed_eq_some_iff_ahead hk, Lags]
  refine and_congr_right fun hdue => and_congr_right fun hprimary =>
    and_congr_right fun hsecondary => ?_
  have hhealthy : s.healthy k = true := by
    match k with
    | 0 => exact hprimary
    | 1 => exact hsecondary
    | 2 => exact absurd rfl hk
  rw [hexact hdue hhealthy]

/-! ## what an exact source survives -/

/-- The validation does not blame source `k` for the fault of the other one
when it has been blamed three times. -/
def Spared (k : Fin 3) (s : TimeState) (r : TimedReadings) : Prop :=
  s.Lags (otherSource k) r → s.failCount k < 3

/-- What a run maintains as long as source `k` is kept. -/
structure Trusted (k : Fin 3) (s : TimeState) : Prop where
  ready : s.Ready
  kept : s.Kept k
  failCount : s.failCount k ≤ 3

/-- A fourth blame is one too many. -/
theorem failCount_succ_le_iff {n : UInt32} (h : n ≤ 3) : n + 1 ≤ 3 ↔ n < 3 := by
  have hthree : (3 : UInt32).toNat = 3 := rfl
  have hle : n.toNat ≤ 3 := UInt32.le_iff_toNat_le.mp h
  have hsucc : (n + 1).toNat = n.toNat + 1 := by
    rw [UInt32.toNat_add, UInt32.toNat_one]
    omega
  rw [UInt32.le_iff_toNat_le, UInt32.lt_iff_toNat_lt, hsucc, hthree]
  omega

/-- The count of an exact source after a validation is low if and only if the
source is spared. -/
theorem Trusted.failCount_le_iff {s s' : TimeState} {k : Fin 3} {r : TimedReadings} (hk : k ≠ 2)
    (h : s.Trusted k) (hexact : s.Exact k r) (hv : s.Validated r.toTimeReadings s') :
    s'.failCount k ≤ 3 ↔ s.Spared k r := by
  by_cases hlags : s.Lags (otherSource k) r
  · rw [hv.failCount, if_pos ((blamed_eq_some_iff_lags hk hexact).mpr hlags),
      failCount_succ_le_iff h.failCount]
    exact ⟨fun hlow _ => hlow, fun hspared => hspared hlags⟩
  · rw [hv.failCount, if_neg (hlags ∘ (blamed_eq_some_iff_lags hk hexact).mp), UInt32.add_zero]
    exact ⟨fun _ hlag => absurd hlag hlags, fun _ => h.failCount⟩

/-- **One validation**: an exact source is kept if and only if it is spared. -/
theorem Trusted.step {s : TimeState} {k : Fin 3} (hk : k ≠ 2) (h : s.Trusted k)
    (r : TimedReadings) (hexact : s.Exact k r) :
    ∃ s', s.validateTimed r = .ok (timeErrorSuccess, s') ∧
      (s'.Kept k ↔ s.Spared k r) ∧ (s'.Kept k → s'.Trusted k) := by
  obtain ⟨s', heq, hv⟩ := validate_spec h.ready.sane r.toTimeReadings
  have hlow := h.failCount_le_iff hk hexact hv
  have hactive (hhealthy : s'.healthy k = true) (hzero : k = 0) :
      s'.ctx.activeSource = .primary := by
    subst hzero
    exact hv.active 0 (h.kept.2 rfl) (.inr hhealthy)
  have hkept : s'.Kept k ↔ s.Spared k r := by
    rw [← hlow]
    constructor
    · rintro ⟨hhealthy, -⟩
      by_cases hdue : s.Due r.toTimeReadings
      · exact UInt32.not_lt.mp (((hv.healthy k).mp hhealthy).2 hdue)
      · exact hlow.mpr fun hlags => absurd hlags.1 hdue
    · intro hle
      have hhealthy : s'.healthy k = true :=
        (hv.healthy k).mpr ⟨h.kept.1, fun _ => UInt32.not_lt.mpr hle⟩
      exact ⟨hhealthy, hactive hhealthy⟩
  exact ⟨s', heq, hkept, fun hk' => ⟨h.ready.validated hv, hk', hlow.mpr (hkept.mp hk')⟩⟩

/-- What a run of validations asks of source `k`, if that source is exact. -/
def FaultContained (k : Fin 3) (s : TimeState) (run : List TimedReadings) : Prop :=
  Always validateTimed (fun s r _ _ => s.Exact k r) s run →
    s.Kept k ∧ Always validateTimed (fun _ _ _ s' => s'.Kept k) s run

/-- In no validation of the run an exact source `k` is blamed a fourth time. -/
def BlamedRarely (k : Fin 3) (s : TimeState) (run : List TimedReadings) : Prop :=
  Always validateTimed (fun s r _ _ => s.Exact k r) s run →
    Always validateTimed (fun s r _ _ => s.Spared k r) s run

/-- From a state that trusts source `k`, the runs that keep it are those that
spare it. -/
theorem Trusted.faultContained_iff {s : TimeState} {k : Fin 3} (hk : k ≠ 2) (h : s.Trusted k)
    (run : List TimedReadings) : s.FaultContained k run ↔ s.BlamedRarely k run := by
  have hstep (s : TimeState) (r : TimedReadings) (h : s.Trusted k) :
      ∃ e s', s.validateTimed r = .ok (e, s') ∧
        (s.Exact k r ∧ s'.Kept k ↔ s.Exact k r ∧ s.Spared k r) ∧
        (s.Exact k r ∧ s'.Kept k → s'.Trusted k) := by
    obtain ⟨s₁, heq₁, -⟩ := validate_spec h.ready.sane r.toTimeReadings
    refine ⟨timeErrorSuccess, s₁, heq₁, ?_⟩
    by_cases hexact : s.Exact k r
    · obtain ⟨s', heq, hkept, htrusted⟩ := h.step hk r hexact
      cases heq₁.symm.trans heq
      exact ⟨and_congr_right' hkept, fun hboth => htrusted hboth.2⟩
    · exact ⟨⟨fun hboth => absurd hboth.1 hexact, fun hboth => absurd hboth.1 hexact⟩,
        fun hboth => absurd hboth.1 hexact⟩
  have hruns := always_iff_always hstep h run
  rw [always_and_iff, always_and_iff] at hruns
  constructor
  · exact fun hcontained hexact => (hruns.mp ⟨hexact, (hcontained hexact).2⟩).2
  · exact fun hrarely hexact => ⟨h.kept, (hruns.mpr ⟨hexact, hrarely hexact⟩).2⟩

end TimeState

/-! ## from a successful initialisation -/

/-- Both hardware sources are trusted after both initialised. -/
theorem Started.trusted {rtcInit : SystemError} {s : TimeState} (h : Started rtcInit s)
    (hrtc : rtcInit.errorCode = errBaseOk) {k : Fin 3} (hk : k ≠ 2) : s.Trusted k := by
  have hhealthy : s.healthy k = true := by
    match k with
    | 0 => exact h.primary
    | 1 => exact h.secondary hrtc
    | 2 => exact absurd rfl hk
  exact ⟨h.ready, ⟨hhealthy, fun _ => h.active⟩, UInt32.le_trans (h.failCount k) (by decide)⟩

/-- **A fault of one source costs the other its health at the fourth blame**:
from the state `kernel_time_init` leaves when both hardware sources
initialised, a run keeps its exact source if and only if it never blames it a
fourth time for lagging behind it. -/
theorem exact_source_kept_iff {timerInit rtcInit error : SystemError} {hw : HwClocks}
    {currentTime : UInt64} {s : TimeState} (htimer : timerInit.errorCode = errBaseOk)
    (hrtc : rtcInit.errorCode = errBaseOk)
    (hinit : kernelTimeInitAt hw (.ofResults timerInit rtcInit) currentTime .zero = .ok (error, s))
    (run : List TimedReadings) :
    (s.FaultContained 0 run ↔ s.BlamedRarely 0 run) ∧
      (s.FaultContained 1 run ↔ s.BlamedRarely 1 run) := by
  obtain ⟨s₁, heq, hstarted⟩ := kernelTimeInitAt_started hw rtcInit currentTime htimer
  cases heq.symm.trans hinit
  have htrusted (k : Fin 3) (hk : k ≠ 2) := hstarted.trusted hrtc hk
  exact ⟨(htrusted 0 (by decide)).faultContained_iff (by decide) run,
    (htrusted 1 (by decide)).faultContained_iff (by decide) run⟩

/-- A validation every two seconds with an exact timer and an RTC that stands
still. -/
def stalledRtc : List TimedReadings :=
  [⟨⟨2000000, 2000000, 0⟩, 2000000⟩, ⟨⟨4000000, 4000000, 0⟩, 4000000⟩,
    ⟨⟨6000000, 6000000, 0⟩, 6000000⟩, ⟨⟨8000000, 8000000, 0⟩, 8000000⟩]

/-- The state a successful initialisation leaves when the counters stand at 0. -/
def clockStarted : TimeState :=
  { sourcesReady with timerReads := 2 }

theorem kernelTimeInitAt_clockStarted :
    kernelTimeInitAt stoppedClocks (.ofResults timeErrorSuccess timeErrorSuccess) 0 .zero =
      .ok (timeErrorSuccess, clockStarted) := rfl

/-- An RTC that stands still costs the exact timer its health. -/
theorem exact_source_not_kept :
    kernelTimeInitAt stoppedClocks (.ofResults timeErrorSuccess timeErrorSuccess) 0 .zero =
        .ok (timeErrorSuccess, clockStarted) ∧
      ¬ clockStarted.FaultContained 0 stalledRtc := by
  refine ⟨kernelTimeInitAt_clockStarted, fun h => ?_⟩
  have hkept := (h (by decide)).2
  exact absurd hkept (by decide)

/-- The same initialisation and the first three validations. -/
theorem exact_source_kept_iff_clockStarted :
    (clockStarted.FaultContained 0 (stalledRtc.take 3) ↔
      clockStarted.BlamedRarely 0 (stalledRtc.take 3)) ∧
    (clockStarted.FaultContained 1 (stalledRtc.take 3) ↔
      clockStarted.BlamedRarely 1 (stalledRtc.take 3)) :=
  exact_source_kept_iff rfl rfl kernelTimeInitAt_clockStarted (stalledRtc.take 3)

end AutoMlos
