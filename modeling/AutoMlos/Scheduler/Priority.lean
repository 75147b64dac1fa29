import AutoMlos.Lib.Run
import AutoMlos.Scheduler.Iteration

/-!
# AutoMlos.Scheduler.Priority

When the scheduler is a strict priority scheduler.

An iteration hands the processor to the leading ready process.  The process
that was dispatched before is no candidate as long as it is RUNNING, so it
loses the processor to any ready process, or to idling, unless a ready
process of strictly higher priority is there to displace it rightfully.
-/

namespace AutoMlos

open Lib

/-- The process holds the processor: it is RUNNING and current. -/
def Dispatched (s : SchedulerState) (p : ProcessControlBlock) : Prop :=
  p.state = .running ∧ p.pid = s.currentPid

instance (s : SchedulerState) (p : ProcessControlBlock) : Decidable (Dispatched s p) :=
  inferInstanceAs (Decidable (_ ∧ _))

/-- The process has a claim to the processor: it is ready or holds it. -/
def Claims (s : SchedulerState) (p : ProcessControlBlock) : Prop :=
  p.state = .ready ∨ Dispatched s p

instance (s : SchedulerState) (p : ProcessControlBlock) : Decidable (Claims s p) :=
  inferInstanceAs (Decidable (_ ∨ _))

namespace SchedulerState

/-- Strict priority from `s` to `s'`: if some process of `s` claims the
processor, `s'` is not idle, and the process it makes current has no larger
priority value than any claimant, and a strictly smaller one than a
dispatched process it displaces. -/
def StrictPriority (s s' : SchedulerState) : Prop :=
  (∃ p ∈ s.processes, Claims s p) →
    s'.currentPid ≠ schedulerIdlePid ∧
    ∃ q ∈ s'.processes, q.pid = s'.currentPid ∧
      (∀ p ∈ s.processes, Claims s p → q.priority.value ≤ p.priority.value) ∧
      ∀ p ∈ s.processes, Dispatched s p → q.pid ≠ p.pid → q.priority.value < p.priority.value

instance (s s' : SchedulerState) : Decidable (s.StrictPriority s') :=
  inferInstanceAs (Decidable (_ → _))

/-- A dispatched process faces a ready process of strictly higher priority,
and if some process is ready, one of proper priority is. -/
def Outranked (s : SchedulerState) : Prop :=
  (∀ p ∈ s.processes, Dispatched s p →
    ∃ q ∈ s.processes, q.state = .ready ∧ q.priority.value < p.priority.value) ∧
  ((∃ p ∈ s.processes, p.state = .ready) →
    ∃ q ∈ s.processes, q.state = .ready ∧ q.priority.value < ProcessPriority.count.value)

end SchedulerState

/-- An iteration respects priorities. -/
def StrictPriorityAt (s : SchedulerState) (event : SchedulerEvent) (_ : List UInt16)
    (s' : SchedulerState) : Prop :=
  match event with
  | .iterate _ _ => s.StrictPriority s'
  | _ => True

instance (s : SchedulerState) (event : SchedulerEvent) (reply : List UInt16)
    (s' : SchedulerState) : Decidable (StrictPriorityAt s event reply s') :=
  match event with
  | .iterate _ _ => inferInstanceAs (Decidable (s.StrictPriority s'))
  | .create _ _ _ => instDecidableTrue
  | .move _ _ => instDecidableTrue

/-- Before an iteration a dispatched process is outranked. -/
def OutrankedBefore (s : SchedulerState) (event : SchedulerEvent) (_ : List UInt16)
    (_ : SchedulerState) : Prop :=
  match event with
  | .iterate _ _ => s.Outranked
  | _ => True

theorem ProcessPriority.value_le_count (p : ProcessPriority) :
    p.value ≤ ProcessPriority.count.value := by
  cases p <;> decide

/-- A ready process of proper priority makes some process lead. -/
theorem exists_leads {s : SchedulerState} (h : s.Numbered) {q : ProcessControlBlock}
    (hq : q ∈ s.processes) (hready : q.state = .ready)
    (hvalid : q.priority.value < ProcessPriority.count.value) :
    ∃ r, Leads s.processes r ∧ s.nextPid = r.pid := by
  rcases selectNext_cases h.pairwise_lt with ⟨hnone, -⟩ | hlead
  · exact absurd hvalid (Nat.not_lt.mpr (hnone q hq hready))
  · exact hlead

theorem Leads.value_le {processes : List ProcessControlBlock} {p q : ProcessControlBlock}
    (hp : Leads processes p) (hq : q ∈ processes) (hready : q.state = .ready) :
    p.priority.value ≤ q.priority.value := by
  rcases hp.first q hq hready with hlt | ⟨heq, -⟩
  · exact Nat.le_of_lt hlt
  · exact Nat.le_of_eq heq

namespace SchedulerState

variable {s : SchedulerState}

/-- The current process after an iteration, seen before it: the leader. -/
theorem exists_current_iterate (h : s.Numbered) (currentTime checkTime : UInt64)
    (P : UInt16 → ProcessPriority → Prop) :
    ((s.iterate currentTime checkTime).2.currentPid ≠ schedulerIdlePid ∧
      ∃ q ∈ (s.iterate currentTime checkTime).2.processes,
        q.pid = (s.iterate currentTime checkTime).2.currentPid ∧ P q.pid q.priority) ↔
      ∃ r, Leads s.processes r ∧ P r.pid r.priority := by
  obtain ⟨g, hprocesses, hg⟩ := processes_iterate h currentTime checkTime
  rw [hprocesses, currentPid_iterate]
  constructor
  · rintro ⟨-, q, hq, hpid, hP⟩
    obtain ⟨r, hr, rfl⟩ := List.mem_map.mp hq
    rw [(hg r).pid] at hpid hP
    rw [(hg r).priority] at hP
    exact ⟨r, (nextPid_eq_iff h hr).mp hpid.symm, hP⟩
  · rintro ⟨r, hr, hP⟩
    have hpid : s.nextPid = r.pid := (nextPid_eq_iff h hr.mem).mpr hr
    refine ⟨hpid ▸ h.pid_ne_idle hr.mem, g r, List.mem_map_of_mem hr.mem, ?_, ?_⟩
    · rw [(hg r).pid, hpid]
    · rw [(hg r).pid, (hg r).priority]
      exact hP

/-- **One iteration** respects priorities exactly when it starts with any
dispatched process outranked. -/
theorem Numbered.strictPriority_iff (h : s.Numbered) (currentTime checkTime : UInt64) :
    s.StrictPriority (s.iterate currentTime checkTime).2 ↔ s.Outranked := by
  rw [StrictPriority, exists_current_iterate h currentTime checkTime
    fun pid priority =>
      (∀ p ∈ s.processes, Claims s p → priority.value ≤ p.priority.value) ∧
      ∀ p ∈ s.processes, Dispatched s p → pid ≠ p.pid → priority.value < p.priority.value]
  constructor
  · intro hstrict
    constructor
    · intro p hp hdispatched
      obtain ⟨r, hr, -, hdisplaces⟩ := hstrict ⟨p, hp, Or.inr hdispatched⟩
      -- the leader is ready and `p` is RUNNING, so they are different
      have hne : r.pid ≠ p.pid := by
        intro hpid
        have hstate := hr.ready
        rw [h.eq_of_pid_eq hr.mem hp hpid, hdispatched.1] at hstate
        exact absurd hstate (by decide)
      exact ⟨r, hr.mem, hr.ready, hdisplaces p hp hdispatched hne⟩
    · rintro ⟨p, hp, hready⟩
      obtain ⟨r, hr, -⟩ := hstrict ⟨p, hp, Or.inl hready⟩
      exact ⟨r, hr.mem, hr.ready, hr.valid⟩
  · rintro ⟨houtranked, hproper⟩ ⟨p, hp, hclaims⟩
    have hvalid : ∃ q ∈ s.processes, q.state = .ready ∧
        q.priority.value < ProcessPriority.count.value := by
      rcases hclaims with hready | hdispatched
      · exact hproper ⟨p, hp, hready⟩
      · obtain ⟨q, hq, hqready, hlt⟩ := houtranked p hp hdispatched
        exact ⟨q, hq, hqready, Nat.lt_of_lt_of_le hlt p.priority.value_le_count⟩
    obtain ⟨q, hq, hqready, hqvalid⟩ := hvalid
    obtain ⟨r, hr, -⟩ := exists_leads h hq hqready hqvalid
    have hdisplaces (p) (hp : p ∈ s.processes) (hdispatched : Dispatched s p) :
        r.priority.value < p.priority.value := by
      obtain ⟨q, hq, hqready, hlt⟩ := houtranked p hp hdispatched
      exact Nat.lt_of_le_of_lt (hr.value_le hq hqready) hlt
    refine ⟨r, hr, fun p hp hclaims => ?_, fun p hp hdispatched _ => hdisplaces p hp hdispatched⟩
    rcases hclaims with hready | hdispatched
    · exact hr.value_le hp hready
    · exact Nat.le_of_lt (hdisplaces p hp hdispatched)

end SchedulerState

/-- **Strict priority**: from any numbered table, every iteration of a run
respects priorities if and only if every one starts with any dispatched
process outranked. -/
theorem scheduler_strict_priority_iff (s : SchedulerState) (h : s.Numbered)
    (events : List SchedulerEvent) :
    Always (total SchedulerState.step) StrictPriorityAt s events ↔
      Always (total SchedulerState.step) OutrankedBefore s events := by
  have hstep (s : SchedulerState) (event : SchedulerEvent) (h : s.Numbered) :
      (StrictPriorityAt s event (s.step event).1 (s.step event).2 ↔
          OutrankedBefore s event (s.step event).1 (s.step event).2) ∧
        (StrictPriorityAt s event (s.step event).1 (s.step event).2 →
          (s.step event).2.Numbered) := by
    refine ⟨?_, fun _ => h.step event⟩
    cases event with
    | create priority rtParams withinBound => exact Iff.rfl
    | move i state => exact Iff.rfl
    | iterate currentTime checkTime => exact h.strictPriority_iff currentTime checkTime
  exact always_total_iff_always hstep h events

/-- The table after initialisation is numbered. -/
theorem scheduler_strict_priority_iff_init :
    Always (total SchedulerState.step) StrictPriorityAt (schedulerInit 0)
        [.create .normal none true, .move 0 ParkedState.ready, .iterate 100 100] ↔
      Always (total SchedulerState.step) OutrankedBefore (schedulerInit 0)
        [.create .normal none true, .move 0 ParkedState.ready, .iterate 100 100] :=
  scheduler_strict_priority_iff _ (SchedulerState.numbered_schedulerInit 0) _

/-- One process, made ready and left alone: the second iteration idles. -/
theorem scheduler_not_always_strict_priority :
    ¬ ∀ (s : SchedulerState), s.Numbered → ∀ events : List SchedulerEvent,
      Always (total SchedulerState.step) StrictPriorityAt s events := by
  intro h
  have hrun := h _ (SchedulerState.numbered_schedulerInit 0)
    [.create .normal none true, .move 0 ParkedState.ready, .iterate 100 100, .iterate 200 200]
  simp only [always_total_cons] at hrun
  have hlast := hrun.2.2.2.1
  revert hlast
  decide

end AutoMlos
