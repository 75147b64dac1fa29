import AutoMlos.Lib.Run
import AutoMlos.Scheduler.Iteration

/-!
# AutoMlos.Scheduler.Consistency

When the RUNNING states agree with the current pid.

The selection loop looks at ready processes only, and no code of the
scheduler takes a process out of RUNNING.  An iteration that starts while a
dispatched process is still RUNNING therefore leaves it RUNNING without
being current, and one that selects the current process again leaves it
current without being RUNNING.  The two are the only ways to lose
consistency (`SchedulerState.Runs.iterate_iff`).
-/

namespace AutoMlos

open Lib

namespace SchedulerState

/-- At most one process is RUNNING, and a process is RUNNING exactly when its
pid is the current one. -/
def Consistent (s : SchedulerState) : Prop :=
  (∀ p ∈ s.processes, ∀ q ∈ s.processes, p.state = .running → q.state = .running → p = q) ∧
    ∀ p ∈ s.processes, p.state = .running ↔ p.pid = s.currentPid

instance (s : SchedulerState) : Decidable s.Consistent := inferInstanceAs (Decidable (_ ∧ _))

/-- The process the current pid names, if any, is neither RUNNING nor the
leading ready process. -/
def NoneDispatched (s : SchedulerState) : Prop :=
  ∀ p ∈ s.processes, p.pid = s.currentPid → p.state ≠ .running ∧ ¬ Leads s.processes p

end SchedulerState

/-- After an iteration the states are consistent. -/
def ConsistentAfter (_ : SchedulerState) (event : SchedulerEvent) (_ : List UInt16)
    (s' : SchedulerState) : Prop :=
  match event with
  | .iterate _ _ => s'.Consistent
  | _ => True

instance (s : SchedulerState) (event : SchedulerEvent) (reply : List UInt16)
    (s' : SchedulerState) : Decidable (ConsistentAfter s event reply s') :=
  match event with
  | .iterate _ _ => inferInstanceAs (Decidable s'.Consistent)
  | .create _ _ _ => instDecidableTrue
  | .move _ _ => instDecidableTrue

/-- Before an iteration no process is dispatched. -/
def NoneDispatchedBefore (s : SchedulerState) (event : SchedulerEvent) (_ : List UInt16)
    (_ : SchedulerState) : Prop :=
  match event with
  | .iterate _ _ => s.NoneDispatched
  | _ => True

/-! ## the invariant -/

namespace SchedulerState

/-- Processes are numbered, and only the current one may be RUNNING. -/
structure Runs (s : SchedulerState) : Prop where
  numbered : s.Numbered
  current : ∀ p ∈ s.processes, p.state = .running → p.pid = s.currentPid

theorem runs_schedulerInit (uptime : UInt64) : (schedulerInit uptime).Runs :=
  ⟨numbered_schedulerInit uptime, by simp [processes, schedulerInit]⟩

variable {s : SchedulerState}

theorem stateAfter_eq_running_iff (currentPid next : UInt16) (p : ProcessControlBlock) :
    stateAfter currentPid next p = .running ↔
      (p.pid = next ∧ next ≠ currentPid) ∨ p.state = .running := by
  unfold stateAfter
  split
  · rename_i h
    exact iff_of_true rfl (Or.inl h)
  · rename_i h
    rw [or_iff_right h]

/-- Whether an iteration leaves a process RUNNING exactly when it is the
current one. -/
theorem Runs.stateAfter_iff (h : s.Runs) {p : ProcessControlBlock} (hp : p ∈ s.processes) :
    (stateAfter s.currentPid s.nextPid p = .running ↔ p.pid = s.nextPid) ↔
      (p.pid = s.currentPid → p.state ≠ .running ∧ ¬ Leads s.processes p) := by
  have hlead : p.pid = s.nextPid ↔ Leads s.processes p := by
    rw [eq_comm]
    exact nextPid_eq_iff h.numbered hp
  rw [stateAfter_eq_running_iff]
  by_cases hcurrent : p.pid = s.currentPid
  · -- the current process: the switch does not touch it
    have hswitch : ¬ (p.pid = s.nextPid ∧ s.nextPid ≠ s.currentPid) :=
      fun hsw => hsw.2 (hsw.1.symm.trans hcurrent)
    have hready : Leads s.processes p → p.state ≠ .running := by
      intro hl
      rw [hl.ready]
      decide
    rw [or_iff_right hswitch, hlead]
    tauto
  · -- another process: it is not RUNNING before
    have hidle : p.state ≠ .running := fun hrun => hcurrent (h.current p hp hrun)
    rw [or_iff_left hidle]
    refine iff_of_true ⟨And.left, fun hnext => ⟨hnext, ?_⟩⟩ fun heq => absurd heq hcurrent
    rw [← hnext]
    exact hcurrent

/-- A consistent state from its second half: pids are different. -/
theorem Numbered.consistent_iff (h : s.Numbered) :
    s.Consistent ↔ ∀ p ∈ s.processes, p.state = .running ↔ p.pid = s.currentPid := by
  refine ⟨And.right, fun hiff => ⟨fun p hp q hq hprun hqrun => ?_, hiff⟩⟩
  exact h.eq_of_pid_eq hp hq (((hiff p hp).mp hprun).trans ((hiff q hq).mp hqrun).symm)

/-- **One iteration** ends consistent exactly when it starts with no
dispatched process. -/
theorem Runs.iterate_iff (h : s.Runs) (currentTime checkTime : UInt64) :
    (s.iterate currentTime checkTime).2.Consistent ↔ s.NoneDispatched := by
  obtain ⟨g, hprocesses, hg⟩ := processes_iterate h.numbered currentTime checkTime
  rw [(h.numbered.iterate currentTime checkTime).consistent_iff, hprocesses, List.forall_mem_map,
    currentPid_iterate]
  simp only [(hg _).state, (hg _).pid]
  exact forall₂_congr fun p hp => h.stateAfter_iff hp

/-! ## whole runs -/

theorem Consistent.runs (h : s.Consistent) (hnumbered : s.Numbered) : s.Runs :=
  ⟨hnumbered, fun p hp => (h.2 p hp).mp⟩

theorem Runs.move (h : s.Runs) (i : Nat) (state : ParkedState) : (s.move i state).Runs := by
  refine ⟨h.numbered.move i state, ?_⟩
  rw [processes_move, currentPid_move]
  intro p hp hrun
  rcases mem_modify hp with hp | ⟨q, -, rfl⟩
  · exact h.current p hp hrun
  · exact absurd hrun state.2.1

theorem Runs.create (h : s.Runs) (priority : ProcessPriority)
    (rtParams : Option RtSchedulingParams) (withinBound : Bool) :
    (s.step (.create priority rtParams withinBound)).2.Runs := by
  have hnumbered := h.numbered.processCreate 0 priority rtParams withinBound
  obtain ⟨hcurrent, ⟨-, hprocesses⟩ | ⟨new, -, hprocesses, -, hstate⟩⟩ :=
    processCreate_cases s 0 priority rtParams withinBound
  · refine ⟨hnumbered, ?_⟩
    simp only [step, hprocesses, hcurrent]
    exact h.current
  · refine ⟨hnumbered, ?_⟩
    simp only [step, hprocesses, hcurrent]
    intro p hp hrun
    rcases List.mem_append.mp hp with hp | hp
    · exact h.current p hp hrun
    · rw [List.mem_singleton.mp hp, hstate] at hrun
      exact absurd hrun (by decide)

/-- **One event**: consistency after it is the absence of a dispatched
process before it, and is what the invariant needs to go on. -/
theorem Runs.step_iff (h : s.Runs) (event : SchedulerEvent) :
    (ConsistentAfter s event (s.step event).1 (s.step event).2 ↔
        NoneDispatchedBefore s event (s.step event).1 (s.step event).2) ∧
      (ConsistentAfter s event (s.step event).1 (s.step event).2 → (s.step event).2.Runs) := by
  cases event with
  | create priority rtParams withinBound =>
      exact ⟨Iff.rfl, fun _ => h.create priority rtParams withinBound⟩
  | move i state => exact ⟨Iff.rfl, fun _ => h.move i state⟩
  | iterate currentTime checkTime =>
      exact ⟨h.iterate_iff currentTime checkTime,
        fun hconsistent => hconsistent.runs (h.numbered.iterate currentTime checkTime)⟩

end SchedulerState

/-- **Consistency**: every iteration of a run ends with exactly the current
process RUNNING if and only if every one starts with no dispatched process. -/
theorem scheduler_consistent_iff (uptime : UInt64) (events : List SchedulerEvent) :
    Always (total SchedulerState.step) ConsistentAfter (schedulerInit uptime) events ↔
      Always (total SchedulerState.step) NoneDispatchedBefore (schedulerInit uptime) events := by
  have hstep (s : SchedulerState) (event : SchedulerEvent) (h : s.Runs) :
      (ConsistentAfter s event (s.step event).1 (s.step event).2 ↔
          NoneDispatchedBefore s event (s.step event).1 (s.step event).2) ∧
        (ConsistentAfter s event (s.step event).1 (s.step event).2 → (s.step event).2.Runs) :=
    h.step_iff event
  exact always_total_iff_always hstep (SchedulerState.runs_schedulerInit uptime) events

/-- One process, made ready and left alone: the second iteration takes the
current pid away from it and leaves it RUNNING. -/
theorem scheduler_not_always_consistent :
    ¬ ∀ (uptime : UInt64) (events : List SchedulerEvent),
      Always (total SchedulerState.step) ConsistentAfter (schedulerInit uptime) events := by
  intro h
  have hrun := h 0
    [.create .normal none true, .move 0 ParkedState.ready, .iterate 100 100, .iterate 200 200]
  simp only [always_total_cons] at hrun
  have hlast := hrun.2.2.2.1
  revert hlast
  decide

end AutoMlos
