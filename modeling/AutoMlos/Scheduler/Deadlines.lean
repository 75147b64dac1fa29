import AutoMlos.Scheduler.Feasibility
import Mathlib.Data.List.Nodup

/-!
# AutoMlos.Scheduler.Deadlines

The two deadline monitors, `scheduler_check_deadlines` and
`scheduler_is_deadline_met`.

Both compare the time since a process was scheduled with its deadline in
microseconds, a 32-bit product.  The first looks at RUNNING processes only, the
second at all.
-/

namespace AutoMlos

/-- The time since a process was scheduled. -/
def ProcessControlBlock.elapsed (p : ProcessControlBlock) (currentTime : UInt64) : Nat :=
  currentTime.toNat - p.lastScheduledTime.toNat

/-- The deadline in microseconds, as the monitors have it. -/
theorem toNat_deadlineUs (params : RtSchedulingParams) :
    params.deadlineUs.toNat = params.deadlineNat % 2 ^ 32 := by
  rw [RtSchedulingParams.deadlineUs, UInt32.toNat_toUInt64, UInt32.toNat_mul]
  rfl

/-- The comparison both monitors make. -/
theorem elapsed_lt_iff {p : ProcessControlBlock} {currentTime : UInt64}
    (h : p.lastScheduledTime ≤ currentTime) :
    currentTime - p.lastScheduledTime > p.rtParams.deadlineUs ↔
      p.rtParams.deadlineNat % 2 ^ 32 < p.elapsed currentTime := by
  rw [gt_iff_lt, UInt64.lt_iff_toNat_lt, toNat_deadlineUs, UInt64.toNat_sub_of_le _ _ h]
  rfl

namespace SchedulerState

variable {s : SchedulerState} {p : ProcessControlBlock} {currentTime : UInt64}

section Monitors

variable (hpids : (s.processes.map (·.pid)).Nodup) (hp : p ∈ s.processes)
  (hperiod : p.rtParams.periodMs > 0) (hclock : p.lastScheduledTime ≤ currentTime)

include hpids hp hperiod hclock

/-- **What the first monitor logs.** -/
theorem mem_schedulerCheckDeadlines_iff :
    p.pid ∈ schedulerCheckDeadlines s currentTime ↔
      p.state = .running ∧ p.rtParams.deadlineNat % 2 ^ 32 < p.elapsed currentTime := by
  rw [schedulerCheckDeadlines, List.mem_map, ← elapsed_lt_iff hclock]
  constructor
  · rintro ⟨q, hq, hpid⟩
    obtain ⟨hmem, hmissed⟩ := List.mem_filter.mp hq
    obtain rfl : q = p := List.inj_on_of_nodup_map hpids hmem hp hpid
    obtain ⟨hrunning, -, hlate⟩ := of_decide_eq_true hmissed
    exact ⟨hrunning, hlate⟩
  · rintro ⟨hrunning, hlate⟩
    exact ⟨p, List.mem_filter.mpr ⟨hp, decide_eq_true ⟨hrunning, hperiod, hlate⟩⟩, rfl⟩

/-- **What the second monitor answers.** -/
theorem schedulerIsDeadlineMet_eq_false_iff :
    schedulerIsDeadlineMet s p.pid currentTime = false ↔
      p.rtParams.deadlineNat % 2 ^ 32 < p.elapsed currentTime := by
  have hfound : (s.processes.find? fun pcb => pcb.pid = p.pid ∧ pcb.rtParams.periodMs > 0) =
      some p := by
    cases hfind : s.processes.find? fun pcb => pcb.pid = p.pid ∧ pcb.rtParams.periodMs > 0 with
    | none =>
        rw [List.find?_eq_none] at hfind
        exact absurd (decide_eq_true ⟨rfl, hperiod⟩) (hfind p hp)
    | some q =>
        have hmatches := List.find?_some hfind
        obtain ⟨hpid, -⟩ := of_decide_eq_true hmatches
        rw [List.inj_on_of_nodup_map hpids (List.mem_of_find?_eq_some hfind) hp hpid]
  rw [schedulerIsDeadlineMet, hfound, ← elapsed_lt_iff hclock]
  simp [UInt64.not_le]

end Monitors

/-- The monitors agree on a process with each other and with exact
arithmetic. -/
structure MonitorsAgree (s : SchedulerState) (p : ProcessControlBlock) (currentTime : UInt64) :
    Prop where
  agree : schedulerIsDeadlineMet s p.pid currentTime = false ↔
    p.pid ∈ schedulerCheckDeadlines s currentTime
  exact : p.pid ∈ schedulerCheckDeadlines s currentTime ↔
    p.state = .running ∧
      currentTime.toNat - p.lastScheduledTime.toNat > p.rtParams.deadlineMs.toNat * 1000

/-- **The two deadline monitors agree** on a process that is RUNNING unless its
time is between the deadline modulo 2^32 and the deadline, and on any other
process as long as its time is not beyond the former. -/
theorem deadline_monitors_agree_iff (s : SchedulerState) (p : ProcessControlBlock)
    (currentTime : UInt64) (hpids : (s.processes.map (·.pid)).Nodup) (hp : p ∈ s.processes)
    (hperiod : p.rtParams.periodMs > 0) (hclock : p.lastScheduledTime ≤ currentTime) :
    s.MonitorsAgree p currentTime ↔
      if p.state = .running then
        ¬ (p.rtParams.deadlineNat % 2 ^ 32 < p.elapsed currentTime ∧
          p.elapsed currentTime ≤ p.rtParams.deadlineNat)
      else p.elapsed currentTime ≤ p.rtParams.deadlineNat % 2 ^ 32 := by
  have hlogs := mem_schedulerCheckDeadlines_iff hpids hp hperiod hclock
  have hmet := schedulerIsDeadlineMet_eq_false_iff hpids hp hperiod hclock
  have hmod : p.rtParams.deadlineNat % 2 ^ 32 ≤ p.rtParams.deadlineNat := Nat.mod_le _ _
  have hagree : s.MonitorsAgree p currentTime ↔
      (schedulerIsDeadlineMet s p.pid currentTime = false ↔
        p.pid ∈ schedulerCheckDeadlines s currentTime) ∧
      (p.pid ∈ schedulerCheckDeadlines s currentTime ↔
        p.state = .running ∧ p.rtParams.deadlineNat < p.elapsed currentTime) :=
    ⟨fun h => ⟨h.agree, h.exact⟩, fun h => ⟨h.1, h.2⟩⟩
  rw [hagree, hmet, hlogs]
  split
  · next hrunning =>
    simp only [hrunning, true_and, iff_self]
    omega
  · next hidle =>
    simp only [hidle, false_and, iff_false, Nat.not_lt, iff_self, and_true]

/-- One process, created and left alone: ten milliseconds every ten. -/
def oneRealTime : SchedulerState :=
  (processCreate (schedulerInit 0) (some 0) .normal (some ⟨10, 10, 1000, 0⟩) true).2.2

/-- Its entry. -/
def firstRealTime : ProcessControlBlock :=
  { pid := 1
    state := .created
    priority := .normal
    rtParams := ⟨10, 10, 1000, 0⟩
    timeUsed := 0
    lastScheduledTime := 0 }

theorem deadline_monitors_agree_iff_oneRealTime :
    oneRealTime.MonitorsAgree firstRealTime 20000 ↔
      if firstRealTime.state = .running then
        ¬ (firstRealTime.rtParams.deadlineNat % 2 ^ 32 < firstRealTime.elapsed 20000 ∧
          firstRealTime.elapsed 20000 ≤ firstRealTime.rtParams.deadlineNat)
      else firstRealTime.elapsed 20000 ≤ firstRealTime.rtParams.deadlineNat % 2 ^ 32 :=
  deadline_monitors_agree_iff oneRealTime firstRealTime 20000 (by decide) (by decide) (by decide)
    (by decide)

/-- It has never run, and its deadline is not met after twenty milliseconds:
nothing is logged. -/
theorem deadline_monitors_not_always_agree :
    ¬ ∀ (s : SchedulerState) (p : ProcessControlBlock) (currentTime : UInt64),
      (s.processes.map (·.pid)).Nodup →
      (∀ q ∈ s.processes, q.lastScheduledTime ≤ currentTime ∧
        schedulerRtFeasibilityCheck (some q.rtParams) true = true) →
      p ∈ s.processes → p.rtParams.periodMs > 0 → s.MonitorsAgree p currentTime := by
  intro h
  have hchecked : ∀ q ∈ oneRealTime.processes, q.lastScheduledTime ≤ 20000 ∧
      schedulerRtFeasibilityCheck (some q.rtParams) true = true := by decide
  have hagree := h oneRealTime firstRealTime 20000 (by decide) hchecked (by decide) (by decide)
  exact absurd (hagree.agree.mp (by decide)) (by decide)

end SchedulerState

end AutoMlos
