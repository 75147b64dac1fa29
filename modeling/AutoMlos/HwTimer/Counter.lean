import AutoMlos.HwTimer
import AutoMlos.Lib.Run
import Mathlib.Algebra.Ring.Nat
import Mathlib.Data.List.ReduceOption

/-!
# AutoMlos.HwTimer.Counter

The values of the extended counter.

`base_counter` counts the overflow interrupts that were serviced, and a call
adds what the platform counter shows to it.  Nothing keeps a wrap and its
interrupt together, nor the two reads of a call: what a call returns depends on
how many interrupts were serviced before it loads `base_counter`, and on where
in its period the platform counter is when it samples that.  The order of events
alone says so (`Interleaving`), and the run of the driver returns its values.

The two operands of the sum are read at different moments, in either order.  The
platform counter is a stub in the source; here it counts ticks.
-/

namespace AutoMlos

open Lib

/-- The ticks after which the platform counter wraps. -/
def counterPeriod : Nat := 4294967296

/-- `hw_timer_platform_get_counter`, after a number of ticks. -/
def platformCounter (ticks : Nat) : UInt64 := UInt64.ofNat (ticks % counterPeriod)

/-- What can happen next; a call of `hw_timer_get_counter` samples the platform
counter and loads `base_counter`. -/
inductive TimerEvent where
  | advance (ticks : Nat)
  | interrupt
  | sample
  | load
  | setCallback (callback context : UInt64)
  deriving DecidableEq, Repr

/-! ## the driver -/

/-- The timer, the ticks of the platform counter, and what a call in progress has
read so far: the ticks at its sample, and `base_counter`. -/
structure CounterRun where
  timer : HwTimer
  ticks : Nat
  sampled : Option Nat
  loaded : Option UInt64

namespace CounterRun

/-- No call is in progress. -/
def start (timer : HwTimer) (ticks : Nat) : CounterRun := ⟨timer, ticks, none, none⟩

/-- A call that has read both operands returns. -/
def complete (r : CounterRun) : Option UInt64 × CounterRun :=
  match r.sampled, r.loaded with
  | some sampledAt, some base =>
      let timer := { r.timer with baseCounter := base }
      (some (timer.getCounter (platformCounter sampledAt)),
        { r with sampled := none, loaded := none })
  | _, _ => (none, r)

/-- One event, with the value of the call that returns at it. -/
def step (r : CounterRun) : TimerEvent → Option UInt64 × CounterRun
  | .advance n => (none, { r with ticks := r.ticks + n })
  | .interrupt => (none, { r with timer := (hwTimerInterruptHandler r.timer).2 })
  | .sample => { r with sampled := some r.ticks }.complete
  | .load => { r with loaded := some r.timer.baseCounter }.complete
  | .setCallback callback context =>
      (none, { r with timer := (hwTimerSetInterruptCallback callback context r.timer).2 })

end CounterRun

/-! ## the order of events -/

/-- Where a call stands among the events: the ticks at its sample, and the
interrupts that were serviced before its load. -/
structure CounterCall where
  sampledAt : Nat
  served : Nat
  deriving DecidableEq, Repr

/-- Between the loads an interrupt was serviced, as far as 32 bits count them, or
the platform counter shows at the later sample no less than at the earlier. -/
def CounterCall.Ordered (c c' : CounterCall) : Prop :=
  c.served % 2 ^ 32 < c'.served % 2 ^ 32 ∨
    c.served % 2 ^ 32 = c'.served % 2 ^ 32 ∧
      c.sampledAt % counterPeriod ≤ c'.sampledAt % counterPeriod

/-- The events so far, without the timer: the ticks, the interrupts serviced,
whether a wrap has still to be serviced, and what a call in progress has met. -/
structure Interleaving where
  ticks : Nat
  served : Nat
  pending : Bool
  sampled : Option Nat
  loaded : Option Nat

namespace Interleaving

/-- No interrupt has to be serviced and no call is in progress. -/
def start (ticks : Nat) : Interleaving := ⟨ticks, 0, false, none, none⟩

/-- A call that has met both. -/
def complete (i : Interleaving) : Option CounterCall × Interleaving :=
  match i.sampled, i.loaded with
  | some sampledAt, some served =>
      (some ⟨sampledAt, served⟩, { i with sampled := none, loaded := none })
  | _, _ => (none, i)

/-- One event, with the call that ends at it. -/
def step (i : Interleaving) : TimerEvent → Option CounterCall × Interleaving
  | .advance n =>
      let wraps : Bool := (i.ticks + n) / counterPeriod ≠ i.ticks / counterPeriod
      (none, { i with ticks := i.ticks + n, pending := i.pending || wraps })
  | .interrupt => (none, { i with served := i.served + 1, pending := false })
  | .sample => { i with sampled := some i.ticks }.complete
  | .load => { i with loaded := some i.served }.complete
  | .setCallback _ _ => (none, i)

/-- The calls of some events, in order. -/
def calls (i : Interleaving) (events : List TimerEvent) : List CounterCall :=
  (mealy step i events).1.reduceOption

/-- The interrupt comes after a wrap and before the next one, and a call reads
each operand once. -/
def Possible (i : Interleaving) : TimerEvent → Prop
  | .advance n =>
      (i.ticks + n) / counterPeriod ≤ i.ticks / counterPeriod + if i.pending then 0 else 1
  | .interrupt => i.pending = true
  | .sample => i.sampled = none
  | .load => i.loaded = none
  | .setCallback _ _ => True

/-- A call reads while no wrap has to be serviced, and the counter does not wrap
during a call. -/
def Quiet (i : Interleaving) : TimerEvent → Prop
  | .advance n =>
      i.sampled = none ∧ i.loaded = none ∨
        (i.ticks + n) / counterPeriod = i.ticks / counterPeriod
  | .sample | .load => i.pending = false
  | .interrupt | .setCallback _ _ => True

instance (i : Interleaving) (e : TimerEvent) : Decidable (i.Possible e) := by
  cases e <;> unfold Possible <;> infer_instance

instance (i : Interleaving) (e : TimerEvent) : Decidable (i.Quiet e) := by
  cases e <;> unfold Quiet <;> infer_instance

end Interleaving

/-! ## the value of a call -/

/-- The value that belongs to a place among the events. -/
def CounterCall.value (c : CounterCall) : UInt64 :=
  platformCounter c.sampledAt + UInt64.ofNat (counterPeriod * c.served)

/-- The sum of `hw_timer_get_counter` is put together from 32 bits of each. -/
theorem CounterCall.toNat_value (c : CounterCall) :
    c.value.toNat = c.sampledAt % counterPeriod + counterPeriod * (c.served % 2 ^ 32) := by
  rw [value, platformCounter, UInt64.toNat_add, UInt64.toNat_ofNat', UInt64.toNat_ofNat']
  simp only [counterPeriod]
  omega

/-- So values are in order exactly if their places are. -/
theorem CounterCall.value_le_iff (c c' : CounterCall) : c.value ≤ c'.value ↔ c.Ordered c' := by
  rw [UInt64.le_iff_toNat_le, toNat_value, toNat_value, Ordered]
  simp only [counterPeriod]
  omega

/-- One more interrupt. -/
theorem base_add_period (n : Nat) :
    UInt64.ofNat (counterPeriod * n) + (1 : UInt64) <<< 32 =
      UInt64.ofNat (counterPeriod * (n + 1)) := by
  have hperiod : ((1 : UInt64) <<< 32) = UInt64.ofNat counterPeriod := by decide
  rw [hperiod, Nat.mul_succ, UInt64.ofNat_add]

/-! ## the driver follows the order of events -/

/-- The driver has counted the interrupts that were serviced, and so has what a
call in progress has loaded. -/
structure Interleaving.Shows (i : Interleaving) (r : CounterRun) : Prop where
  initialized : r.timer.initialized = true
  mode : r.timer.mode = .freeRunning
  base : r.timer.baseCounter = UInt64.ofNat (counterPeriod * i.served)
  ticks : r.ticks = i.ticks
  sampled : r.sampled = i.sampled
  loaded : r.loaded = i.loaded.map fun served => UInt64.ofNat (counterPeriod * served)

namespace Interleaving

variable {i : Interleaving} {r : CounterRun}

theorem shows_start {frequencyHz : UInt32} {selfTest : SystemError} {t : HwTimer}
    (h : (hwTimerInit frequencyHz .freeRunning selfTest t).1.errorCode = errSysOk) (ticks : Nat) :
    (start ticks).Shows (.start (hwTimerInit frequencyHz .freeRunning selfTest t).2 ticks) := by
  rw [hwTimerInit_of_ok h]
  exact ⟨rfl, rfl, rfl, rfl, rfl, rfl⟩

/-- A call that returns has added what it sampled to what it loaded. -/
theorem Shows.complete (h : i.Shows r) :
    r.complete.1 = i.complete.1.map CounterCall.value ∧ i.complete.2.Shows r.complete.2 := by
  have hloaded := h.loaded
  have hsampled := h.sampled
  unfold CounterRun.complete Interleaving.complete
  cases hs : i.sampled with
  | none =>
      rw [hs] at hsampled
      simp only [hsampled]
      exact ⟨rfl, h⟩
  | some sampledAt =>
      cases hl : i.loaded with
      | none =>
          rw [hs] at hsampled
          rw [hl] at hloaded
          simp only [hsampled, hloaded]
          exact ⟨rfl, h⟩
      | some served =>
          rw [hs] at hsampled
          rw [hl] at hloaded
          have hinit : ¬ r.timer.initialized = false := by simp [h.initialized]
          simp only [hsampled, hloaded, Option.map_some, HwTimer.getCounter, if_neg hinit]
          exact ⟨rfl, h.initialized, h.mode, h.base, h.ticks, rfl, rfl⟩

/-- **One event**: the driver returns the value of the call that ends. -/
theorem Shows.step (h : i.Shows r) (e : TimerEvent) :
    (r.step e).1 = (i.step e).1.map CounterCall.value ∧ (i.step e).2.Shows (r.step e).2 := by
  cases e with
  | advance n =>
      refine ⟨rfl, h.initialized, h.mode, h.base, ?_, h.sampled, h.loaded⟩
      exact congrArg (· + n) h.ticks
  | interrupt =>
      have htimer : (r.step .interrupt).2.timer = (hwTimerInterruptHandler r.timer).2 := rfl
      have hserved : (i.step .interrupt).2.served = i.served + 1 := rfl
      rw [hwTimerInterruptHandler_of_freeRunning h.mode] at htimer
      refine ⟨rfl, ?_, ?_, ?_, h.ticks, h.sampled, h.loaded⟩
      · rw [htimer]
        exact h.initialized
      · rw [htimer]
        exact h.mode
      · rw [htimer, hserved, ← base_add_period, ← h.base]
  | sample =>
      refine Shows.complete ⟨h.initialized, h.mode, h.base, h.ticks, ?_, h.loaded⟩
      exact congrArg some h.ticks
  | load =>
      refine Shows.complete ⟨h.initialized, h.mode, h.base, h.ticks, h.sampled, ?_⟩
      exact congrArg some h.base
  | setCallback callback context =>
      have hinit : ¬ r.timer.initialized = false := by simp [h.initialized]
      rw [CounterRun.step, hwTimerSetInterruptCallback, if_neg hinit]
      exact ⟨rfl, h.initialized, h.mode, h.base, h.ticks, h.sampled, h.loaded⟩

/-- **A run** returns the values of its calls. -/
theorem Shows.run (h : i.Shows r) (events : List TimerEvent) :
    (mealy CounterRun.step r events).1.reduceOption = (i.calls events).map CounterCall.value ∧
      (mealy Interleaving.step i events).2.Shows (mealy CounterRun.step r events).2 := by
  have hrun := mealy_represents
    (fun r i e (hshows : Shows i r) (_ : True) => hshows.step e) h
    (fun e (_ : e ∈ events) => trivial)
  rw [List.map_id'] at hrun
  refine ⟨?_, hrun.2⟩
  rw [hrun.1, List.reduceOption_map, calls]

/-- The interrupts of some events are serviced. -/
theorem served_run (i : Interleaving) (events : List TimerEvent) :
    (mealy step i events).2.served = i.served + events.count .interrupt := by
  induction events generalizing i with
  | nil => rfl
  | cons e events ih =>
      have hstep : (i.step e).2.served = i.served + if e = .interrupt then 1 else 0 := by
        cases e with
        | advance n => rfl
        | interrupt => rfl
        | sample =>
            rw [step, complete]
            split <;> rfl
        | load =>
            rw [step, complete]
            split <;> rfl
        | setCallback callback context => rfl
      rw [mealy_cons, ih, hstep, List.count_cons]
      simp only [beq_iff_eq]
      omega

/-! ## quiet runs -/

/-- Every wrap was serviced or is pending. -/
def Counted (start : Nat) (i : Interleaving) : Prop :=
  start / counterPeriod + i.served + i.pending.toNat = i.ticks / counterPeriod

theorem counted_start (ticks : Nat) : (start ticks).Counted ticks := rfl

/-- **The interrupt keeps up with the wraps.** -/
theorem Counted.step {start : Nat} (h : i.Counted start) {e : TimerEvent} (he : i.Possible e) :
    (i.step e).2.Counted start := by
  have hcomplete {i' : Interleaving} (h' : i'.Counted start) : i'.complete.2.Counted start := by
    unfold complete
    split <;> exact h'
  cases e with
  | advance n =>
      have hlate : i.ticks / counterPeriod ≤ (i.ticks + n) / counterPeriod :=
        Nat.div_le_div_right (Nat.le_add_right i.ticks n)
      have hroom : (i.ticks + n) / counterPeriod ≤
          i.ticks / counterPeriod + if i.pending then 0 else 1 := he
      rw [Counted] at h ⊢
      simp only [Interleaving.step]
      by_cases hwrap : (i.ticks + n) / counterPeriod = i.ticks / counterPeriod
      · rw [hwrap, decide_eq_false (not_not_intro rfl), Bool.or_false]
        exact h
      · have hidle : i.pending = false := by
          cases hpending : i.pending with
          | false => rfl
          | true =>
              rw [hpending, if_pos rfl] at hroom
              exact absurd (Nat.le_antisymm hroom hlate) hwrap
        rw [hidle, if_neg Bool.false_ne_true] at hroom
        rw [hidle, Bool.toNat_false] at h
        rw [hidle, decide_eq_true hwrap, Bool.or_true, Bool.toNat_true]
        omega
  | interrupt =>
      have hpending : i.pending = true := he
      rw [Counted, hpending] at h
      exact h
  | sample => exact hcomplete h
  | load => exact hcomplete h
  | setCallback callback context => exact h

/-- What a call in progress has read is up to date, and no wrap is pending. -/
structure Settled (start : Nat) (i : Interleaving) : Prop where
  counted : i.Counted start
  sampled : ∀ sampledAt ∈ i.sampled, i.pending = false ∧ sampledAt ≤ i.ticks ∧
    sampledAt / counterPeriod = i.ticks / counterPeriod
  loaded : ∀ served ∈ i.loaded, i.pending = false ∧ served = i.served

theorem settled_start (ticks : Nat) : (start ticks).Settled ticks :=
  ⟨counted_start ticks, by simp [start], by simp [start]⟩

/-- The ticks that no call still to end has sampled before. -/
def earliest (i : Interleaving) : Nat := i.sampled.getD i.ticks

/-- What a call keeps that ends in a quiet run. -/
structure CallSettled (start : Nat) (i : Interleaving) (c : CounterCall) (i' : Interleaving) :
    Prop where
  counted : start / counterPeriod + c.served = c.sampledAt / counterPeriod
  earliest_le : i.earliest ≤ c.sampledAt
  le_earliest : c.sampledAt ≤ i'.earliest

theorem Settled.earliest_le {start : Nat} (h : i.Settled start) : i.earliest ≤ i.ticks := by
  unfold earliest
  cases hsampled : i.sampled with
  | none => exact Nat.le_refl _
  | some sampledAt => exact (h.sampled sampledAt hsampled).2.1

/-- A call that ends has met every wrap before its sample. -/
theorem Settled.complete {start : Nat} (h : i.Settled start) :
    i.complete.2.Settled start ∧ i.earliest ≤ i.complete.2.earliest ∧
      ∀ c ∈ i.complete.1, i.CallSettled start c i.complete.2 := by
  unfold Interleaving.complete
  split
  · next sampledAt served hsampled hloaded =>
    obtain ⟨hidle, hle, hwraps⟩ := h.sampled sampledAt hsampled
    obtain ⟨-, hserved⟩ := h.loaded served hloaded
    have hcounted := h.counted
    rw [Counted, hidle, Bool.toNat_false] at hcounted
    have hearliest : i.earliest = sampledAt := by rw [earliest, hsampled, Option.getD_some]
    refine ⟨⟨h.counted, by simp, by simp⟩, Nat.le_trans (Nat.le_of_eq hearliest) hle, ?_⟩
    rintro c ⟨⟩
    refine ⟨?_, Nat.le_of_eq hearliest, hle⟩
    rw [hserved, hwraps]
    exact hcounted
  · exact ⟨h, Nat.le_refl _, by simp⟩

/-- **One event of a quiet run.** -/
theorem Settled.step {start : Nat} (h : i.Settled start) {e : TimerEvent} (he : i.Possible e)
    (hquiet : i.Quiet e) :
    (i.step e).2.Settled start ∧ i.earliest ≤ (i.step e).2.earliest ∧
      ∀ c ∈ (i.step e).1, i.CallSettled start c (i.step e).2 := by
  have hcounted := h.counted.step he
  cases e with
  | advance n =>
      have hle : i.ticks ≤ i.ticks + n := Nat.le_add_right _ n
      have hwraps : i.sampled = none ∧ i.loaded = none ∨
        (i.ticks + n) / counterPeriod = i.ticks / counterPeriod := hquiet
      rcases hwraps with ⟨hsampled, hloaded⟩ | hwraps
      · refine ⟨⟨hcounted, ?_, ?_⟩, ?_, by simp [Interleaving.step]⟩
        · simp [Interleaving.step, hsampled]
        · simp [Interleaving.step, hloaded]
        · simp only [earliest, Interleaving.step, hsampled, Option.getD_none]
          exact hle
      · have hpending : (i.step (.advance n)).2.pending = i.pending := by
          simp only [Interleaving.step, hwraps]
          simp
        refine ⟨⟨hcounted, fun sampledAt hsampled => ?_, fun served hserved => ?_⟩, ?_,
          by simp [Interleaving.step]⟩
        · obtain ⟨hidle, hbefore, hsame⟩ := h.sampled sampledAt hsampled
          exact ⟨hpending.trans hidle, Nat.le_trans hbefore hle, hsame.trans hwraps.symm⟩
        · obtain ⟨hidle, hsame⟩ := h.loaded served hserved
          exact ⟨hpending.trans hidle, hsame⟩
        · simp only [earliest, Interleaving.step]
          cases i.sampled with
          | none => exact hle
          | some sampledAt => exact Nat.le_refl _
  | interrupt =>
      have hpending : i.pending = true := he
      have hbusy : i.pending ≠ false := by simp [hpending]
      refine ⟨⟨hcounted, fun sampledAt hsampled => ?_, fun served hserved => ?_⟩, Nat.le_refl _,
        by simp [Interleaving.step]⟩
      · exact absurd (h.sampled sampledAt hsampled).1 hbusy
      · exact absurd (h.loaded served hserved).1 hbusy
  | sample =>
      have hidle : i.pending = false := hquiet
      have hsampled : Settled start { i with sampled := some i.ticks } := by
        refine ⟨h.counted, fun sampledAt hsampled => ?_, h.loaded⟩
        cases hsampled
        exact ⟨hidle, Nat.le_refl _, rfl⟩
      obtain ⟨hnext, hearliest, hcall⟩ := hsampled.complete
      have hle : i.earliest ≤ i.ticks := h.earliest_le
      refine ⟨hnext, Nat.le_trans hle hearliest, fun c hc => ?_⟩
      obtain ⟨hserved, hafter, hbefore⟩ := hcall c hc
      exact ⟨hserved, Nat.le_trans hle hafter, hbefore⟩
  | load =>
      have hidle : i.pending = false := hquiet
      have hloaded : Settled start { i with loaded := some i.served } := by
        refine ⟨h.counted, h.sampled, fun served hserved => ?_⟩
        cases hserved
        exact ⟨hidle, rfl⟩
      obtain ⟨hnext, hearliest, hcall⟩ := hloaded.complete
      refine ⟨hnext, hearliest, fun c hc => ?_⟩
      obtain ⟨hserved, hafter, hbefore⟩ := hcall c hc
      exact ⟨hserved, hafter, hbefore⟩
  | setCallback callback context => exact ⟨h, Nat.le_refl _, by simp [Interleaving.step]⟩

theorem calls_cons (i : Interleaving) (e : TimerEvent) (events : List TimerEvent) :
    i.calls (e :: events) = (i.step e).1.toList ++ (i.step e).2.calls events := by
  rw [calls, mealy_cons, ← List.singleton_append, List.reduceOption_append,
    List.reduceOption_singleton, calls]

/-- **A quiet run**: its calls sample the counter in order and have met every wrap
before their samples. -/
theorem Settled.calls {start : Nat} (h : i.Settled start) {events : List TimerEvent}
    (hquiet : Always (total Interleaving.step) (fun i e _ _ => i.Possible e ∧ i.Quiet e) i events) :
    (∀ c ∈ i.calls events, start / counterPeriod + c.served = c.sampledAt / counterPeriod ∧
      i.earliest ≤ c.sampledAt) ∧
      (i.calls events).Pairwise (·.sampledAt ≤ ·.sampledAt) := by
  induction events generalizing i with
  | nil => exact ⟨by simp [Interleaving.calls, mealy], .nil⟩
  | cons e events ih =>
      obtain ⟨⟨hpossible, he⟩, hrest⟩ := always_total_cons.mp hquiet
      obtain ⟨hnext, hearliest, hcall⟩ := h.step hpossible he
      obtain ⟨hlater, hordered⟩ := ih hnext hrest
      rw [calls_cons]
      constructor
      · intro c hc
        rcases List.mem_append.mp hc with hc | hc
        · have hthis := hcall c (Option.mem_toList.mp hc)
          exact ⟨hthis.counted, hthis.earliest_le⟩
        · exact ⟨(hlater c hc).1, Nat.le_trans hearliest (hlater c hc).2⟩
      · refine List.pairwise_append.mpr ⟨?_, hordered, fun c hc c' hc' => ?_⟩
        · cases (i.step e).1 with
          | none => exact .nil
          | some c => exact List.pairwise_singleton _ _
        · exact Nat.le_trans (hcall c (Option.mem_toList.mp hc)).le_earliest (hlater c' hc').2

/-- Its calls are in order, as long as 32 bits count the interrupts. -/
theorem Settled.ordered {start : Nat} (h : i.Settled start) {events : List TimerEvent}
    (hquiet : Always (total Interleaving.step) (fun i e _ _ => i.Possible e ∧ i.Quiet e) i events)
    (hfits : ∀ c ∈ i.calls events, c.served < 2 ^ 32) :
    (i.calls events).Pairwise CounterCall.Ordered := by
  obtain ⟨hsettled, hordered⟩ := h.calls hquiet
  refine hordered.imp_of_mem fun hc hc' hle => ?_
  have hwraps := (hsettled _ hc).1
  have hwraps' := (hsettled _ hc').1
  rw [CounterCall.Ordered, Nat.mod_eq_of_lt (hfits _ hc), Nat.mod_eq_of_lt (hfits _ hc')]
  simp only [counterPeriod] at *
  omega

end Interleaving

/-! ## the counter over a run -/

/-- **The extended counter never runs backwards** in a run if and only if its
calls stand in order among the events.  They do in every run in which a call
reads while no wrap is pending and the counter does not wrap during a call, as
long as 32 bits count the interrupts. -/
theorem counter_nondecreasing_iff {frequencyHz : UInt32} {selfTest : SystemError} {t : HwTimer}
    (h : (hwTimerInit frequencyHz .freeRunning selfTest t).1.errorCode = errSysOk) (ticks : Nat)
    (events : List TimerEvent) :
    let start := CounterRun.start (hwTimerInit frequencyHz .freeRunning selfTest t).2 ticks
    let values := (mealy CounterRun.step start events).1.reduceOption
    let calls := (Interleaving.start ticks).calls events
    (mealy CounterRun.step start events).2.timer.baseCounter =
        UInt64.ofNat (counterPeriod * events.count .interrupt) ∧
      (values.Pairwise (· ≤ ·) ↔ calls.Pairwise CounterCall.Ordered) ∧
      (Always (total Interleaving.step) (fun i e _ _ => i.Possible e ∧ i.Quiet e) (.start ticks)
          events →
        (∀ c ∈ calls, c.served < 2 ^ 32) → values.Pairwise (· ≤ ·)) := by
  obtain ⟨hvalues, hend⟩ := (Interleaving.shows_start h ticks).run events
  have hbase := hend.base
  have hstart : (Interleaving.start ticks).served = 0 := rfl
  rw [Interleaving.served_run, hstart, Nat.zero_add] at hbase
  have hiff : (((Interleaving.start ticks).calls events).map CounterCall.value).Pairwise (· ≤ ·) ↔
      ((Interleaving.start ticks).calls events).Pairwise CounterCall.Ordered := by
    rw [List.pairwise_map]
    exact List.Pairwise.iff CounterCall.value_le_iff
  rw [← hvalues] at hiff
  exact ⟨hbase, hiff, fun hquiet hfits =>
    hiff.mpr ((Interleaving.settled_start ticks).ordered hquiet hfits)⟩

/-- A timer at 1 MHz, free-running. -/
def freeRunningTimer : HwTimer := (hwTimerInit 1000000 .freeRunning hwTimerOk .zero).2

/-- The counter is read just before it wraps, and again once the interrupt is
serviced. -/
def readAfterInterrupt : List TimerEvent :=
  [.advance 4294967295, .sample, .load, .advance 1, .interrupt, .sample, .load]

theorem counter_nondecreasing_iff_readAfterInterrupt :
    let values :=
      (mealy CounterRun.step (.start freeRunningTimer 0) readAfterInterrupt).1.reduceOption
    let calls := (Interleaving.start 0).calls readAfterInterrupt
    (mealy CounterRun.step (.start freeRunningTimer 0) readAfterInterrupt).2.timer.baseCounter =
        UInt64.ofNat (counterPeriod * readAfterInterrupt.count .interrupt) ∧
      (values.Pairwise (· ≤ ·) ↔ calls.Pairwise CounterCall.Ordered) ∧
      values.Pairwise (· ≤ ·) := by
  have hok : (hwTimerInit 1000000 .freeRunning hwTimerOk .zero).1.errorCode = errSysOk := rfl
  obtain ⟨hbase, hiff, hquiet⟩ := counter_nondecreasing_iff hok 0 readAfterInterrupt
  exact ⟨hbase, hiff, hquiet (by decide) (by decide)⟩

/-- The counter is read just before and just after it wraps, and the interrupt
is serviced then. -/
def readAcrossWrap : List TimerEvent :=
  [.advance 4294967295, .sample, .load, .advance 1, .sample, .load, .interrupt]

/-- The second value is 0. -/
theorem counter_not_always_nondecreasing :
    Always (total Interleaving.step) (fun i e _ _ => i.Possible e) (.start 0) readAcrossWrap ∧
      ¬ (mealy CounterRun.step (.start freeRunningTimer 0) readAcrossWrap).1.reduceOption.Pairwise
        (· ≤ ·) := by
  decide

end AutoMlos
