import AutoMlos.KernelTime.Usable

/-!
# AutoMlos.KernelTime.Uptime

What `kernel_time_get_uptime_us` answers when time has passed.

The reading is the number of ticks of the active source since boot and is
taken for microseconds.  It is that for the primary source, which ticks once a
microsecond; the secondary source ticks 32768 times a second, so its uptime
runs about thirty times too slow and falls back when the clock switches to it.
-/

namespace AutoMlos

open Lib

/-- What a counter that stood at `boot` and makes `frequency` ticks a second
shows `elapsed` microseconds later. -/
def counterAt (boot frequency : UInt64) (elapsed : Nat) : UInt64 :=
  boot + UInt64.ofNat (elapsed * frequency.toNat / 1000000)

theorem toNat_counterAt_sub_boot (boot frequency : UInt64) (elapsed : Nat) :
    (counterAt boot frequency elapsed - boot).toNat =
      elapsed * frequency.toNat / 1000000 % UInt64.size := by
  rw [counterAt, UInt64.add_comm, UInt64.add_sub_cancel]
  exact UInt64.toNat_ofNat'

/-- A time in microseconds is the time elapsed up to one tick of a source. -/
def WithinOneTick (frequency value elapsed : Nat) : Prop :=
  ((value : Int) - elapsed).natAbs * frequency ≤ 1000000

instance (frequency value elapsed : Nat) : Decidable (WithinOneTick frequency value elapsed) :=
  inferInstanceAs (Decidable (_ ≤ _))

namespace TimeState

/-- The hardware counters `elapsed` microseconds after boot. -/
def clocksAt (s : TimeState) (elapsed : Nat) : HwClocks where
  timer _ := counterAt (s.boot 0) (s.frequency 0) elapsed
  rtc _ := counterAt (s.boot 1) (s.frequency 1) elapsed

/-- What `kernel_time_get_uptime_us` reads then, its validation left out. -/
def uptimeAt (s : TimeState) (elapsed : Nat) : UInt64 :=
  (readActiveSource (s.clocksAt elapsed) s).1

/-- The uptime is the time elapsed up to one tick of source `k`. -/
def UptimeExact (s : TimeState) (k : Fin 3) (elapsed : Nat) : Prop :=
  WithinOneTick (s.frequency k).toNat (s.uptimeAt elapsed).toNat elapsed

instance (s : TimeState) (k : Fin 3) (elapsed : Nat) : Decidable (s.UptimeExact k elapsed) :=
  inferInstanceAs (Decidable (WithinOneTick _ _ _))

/-- The hardware sources have the frequencies the init functions enter. -/
structure Configured (s : TimeState) : Prop where
  primary : s.frequency 0 = 1000000
  secondary : s.frequency 1 = 32768

variable {s s' : TimeState}

/-- Both init functions succeeded, and validations may have followed. -/
theorem configured_of_init {hw : HwClocks} {timerInit rtcInit : SystemError}
    (htimer : timerInit.errorCode = errBaseOk) (hrtc : rtcInit.errorCode = errBaseOk)
    (h : SameSources (kernelTimeInitSources hw (.ofResults timerInit rtcInit) .zero) s) :
    s.Configured := by
  have hctx := kernelTimeInitSources_ctx hw timerInit rtcInit
  rw [decide_eq_true htimer, decide_eq_true hrtc] at hctx
  constructor
  · rw [frequency, h.frequency, hctx]
    rfl
  · rw [frequency, h.frequency, hctx]
    rfl

/-- With the primary source active, the uptime counts microseconds. -/
theorem toNat_uptimeAt_primary (h : s.Configured) (hactive : s.Active 0) (elapsed : Nat) :
    (s.uptimeAt elapsed).toNat = elapsed % UInt64.size := by
  have hread : s.uptimeAt elapsed = counterAt (s.boot 0) (s.frequency 0) elapsed - s.boot 0 := by
    rw [uptimeAt, readActiveSource, hactive]
    rfl
  have hfrequency : (1000000 : UInt64).toNat = 1000000 := rfl
  rw [hread, toNat_counterAt_sub_boot, h.primary, hfrequency,
    Nat.mul_div_cancel _ (Nat.succ_pos 999999)]

/-- With the secondary source active, it counts ticks of a 32768 Hz clock. -/
theorem toNat_uptimeAt_secondary (h : s.Configured) (hactive : s.Active 1) (elapsed : Nat) :
    (s.uptimeAt elapsed).toNat = elapsed * 32768 / 1000000 % UInt64.size := by
  have hread : s.uptimeAt elapsed = counterAt (s.boot 1) (s.frequency 1) elapsed - s.boot 1 := by
    rw [uptimeAt, readActiveSource, hactive]
    rfl
  have hfrequency : (32768 : UInt64).toNat = 32768 := rfl
  rw [hread, toNat_counterAt_sub_boot, h.secondary, hfrequency]

/-- The primary uptime is exact until the 64-bit counter wraps. -/
theorem uptimeExact_primary_iff (h : s.Configured) (hactive : s.Active 0) (elapsed : Nat) :
    s.UptimeExact 0 elapsed ↔ elapsed < UInt64.size := by
  have hfrequency : (s.frequency 0).toNat = 1000000 := by
    rw [h.primary]
    rfl
  rw [UptimeExact, WithinOneTick, toNat_uptimeAt_primary h hactive, hfrequency]
  simp only [UInt64.size]
  omega

/-- The secondary uptime is exact for the first 31 microseconds. -/
theorem uptimeExact_secondary_iff (h : s.Configured) (hactive : s.Active 1) (elapsed : Nat) :
    s.UptimeExact 1 elapsed ↔ elapsed ≤ 31 := by
  have hfrequency : (s.frequency 1).toNat = 32768 := by
    rw [h.secondary]
    rfl
  -- the wrap of the counter makes the uptime smaller still
  have hwrap := Nat.mod_le (elapsed * 32768 / 1000000) UInt64.size
  rw [UptimeExact, WithinOneTick, toNat_uptimeAt_secondary h hactive, hfrequency]
  constructor
  · intro hexact
    omega
  · intro hearly
    have hfits : elapsed * 32768 / 1000000 < UInt64.size := by
      simp only [UInt64.size]
      omega
    rw [Nat.mod_eq_of_lt hfits]
    omega

/-- After a switch to the secondary source the uptime is not below what the
primary source showed if the time that has passed makes up for the slower
ticks. -/
theorem uptimeAt_failover_iff (h : s.Configured) (h' : s'.Configured) (hactive : s.Active 0)
    (hactive' : s'.Active 1) (before after : Nat) :
    s.uptimeAt before ≤ s'.uptimeAt after ↔
      before % UInt64.size ≤ after * 32768 / 1000000 % UInt64.size := by
  rw [UInt64.le_iff_toNat_le, toNat_uptimeAt_primary h hactive,
    toNat_uptimeAt_secondary h' hactive']

end TimeState

/-- The times at which the uptime of source `k` is exact. -/
def UptimeInStep (k : Fin 3) (elapsed : Nat) : Prop :=
  k = 0 ∧ elapsed < UInt64.size ∨ k = 1 ∧ elapsed ≤ 31

/-- **The uptime depends on the active source**: after both sources have
initialised, it is the time elapsed up to a tick exactly for the primary source
until its counter wraps and for the secondary source in the first 31
microseconds; and a failover does not turn it back exactly if the ticks of the
secondary source make up for the microseconds counted before. -/
theorem uptime_exact_iff {hw : HwClocks} {timerInit rtcInit : SystemError} {s s' : TimeState}
    (htimer : timerInit.errorCode = errBaseOk) (hrtc : rtcInit.errorCode = errBaseOk)
    (hs : TimeState.SameSources
      (kernelTimeInitSources hw (.ofResults timerInit rtcInit) .zero) s)
    (hs' : TimeState.SameSources
      (kernelTimeInitSources hw (.ofResults timerInit rtcInit) .zero) s') :
    (∀ k ≠ 2, s.Active k → ∀ elapsed, s.UptimeExact k elapsed ↔ UptimeInStep k elapsed) ∧
      (s.Active 0 → s'.Active 1 → ∀ before after, before ≤ after →
        (s.uptimeAt before ≤ s'.uptimeAt after ↔
          before % UInt64.size ≤ after * 32768 / 1000000 % UInt64.size)) := by
  have hconfigured := TimeState.configured_of_init htimer hrtc hs
  have hconfigured' := TimeState.configured_of_init htimer hrtc hs'
  constructor
  · intro k hk hactive elapsed
    match k with
    | 0 =>
        rw [TimeState.uptimeExact_primary_iff hconfigured hactive, UptimeInStep]
        simp
    | 1 =>
        rw [TimeState.uptimeExact_secondary_iff hconfigured hactive, UptimeInStep]
        simp
    | 2 => exact absurd rfl hk
  · intro hactive hactive' before after _
    exact TimeState.uptimeAt_failover_iff hconfigured hconfigured' hactive hactive' before after

/-- The sources as `kernel_time_init` enters them, the secondary one active. -/
def secondaryActive : TimeState :=
  { sourcesReady with ctx := { sourcesReady.ctx with activeSource := .secondary } }

/-- After a second the secondary source shows 32768 microseconds, and a
failover then turns the uptime back. -/
theorem uptime_not_always_exact :
    ¬ secondaryActive.UptimeExact 1 1000000 ∧
      ¬ sourcesReady.uptimeAt 1000000 ≤ secondaryActive.uptimeAt 1000001 := by
  decide

/-- The same sources, read with the primary one active and after a failover. -/
theorem uptime_exact_iff_sourcesReady :
    (∀ elapsed, sourcesReady.UptimeExact 0 elapsed ↔ UptimeInStep 0 elapsed) ∧
      (∀ elapsed, secondaryActive.UptimeExact 1 elapsed ↔ UptimeInStep 1 elapsed) ∧
      (sourcesReady.uptimeAt 1000000 ≤ secondaryActive.uptimeAt 31000000 ↔
        1000000 % UInt64.size ≤ 31000000 * 32768 / 1000000 % UInt64.size) := by
  have hsame : TimeState.SameSources sourcesReady sourcesReady := .refl _
  have hsame' : TimeState.SameSources sourcesReady secondaryActive := ⟨rfl, rfl, rfl⟩
  have hok : timeErrorSuccess.errorCode = errBaseOk := rfl
  have hprimary := uptime_exact_iff hok hok hsame hsame'
  have hsecondary := uptime_exact_iff hok hok hsame' hsame'
  exact ⟨hprimary.1 0 (by decide) rfl, hsecondary.1 1 (by decide) rfl,
    hprimary.2 rfl rfl 1000000 31000000 (by decide)⟩

end AutoMlos
