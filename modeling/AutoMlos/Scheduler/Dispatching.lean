import AutoMlos.Lib.ReadyQueue
import AutoMlos.Scheduler.Table
import Mathlib.Data.Prod.Lex
import Mathlib.Order.Basic

/-!
# AutoMlos.Scheduler.Dispatching

The scheduler as a queue of ready processes.

The loop of `scheduler_start` serves the least of the ready processes, by
priority and then by pid, and nothing makes a process wait again but other
code: the scheduler refines such a queue (`scheduler_refines_ready_queue`).
Left alone, it gives each ready process one pass in that order and idles from
then on; the process keeps its state RUNNING and the time of that pass, and so
its deadline is reported as missed for good (`ready_processes_run_once`).
-/

namespace AutoMlos

open Lib

/-! ## the queue -/

/-- The place of a process in the queue. -/
def ProcessControlBlock.rank (p : ProcessControlBlock) : ℕ ×ₗ ℕ :=
  toLex (p.priority.value, p.pid.toNat)

/-- The selection loop can select it. -/
def ProcessControlBlock.Waits (p : ProcessControlBlock) : Prop :=
  p.state = .ready ∧ p.priority.value < ProcessPriority.count.value

instance (p : ProcessControlBlock) : Decidable p.Waits := inferInstanceAs (Decidable (_ ∧ _))

/-- The scheduler without its table: the priorities of the processes 1, 2, …
and the queue of those that are ready. -/
structure Dispatcher where
  priorities : List ProcessPriority
  queue : ReadyQueue (ℕ ×ₗ ℕ)

namespace Dispatcher

/-- No processes. -/
def empty : Dispatcher := ⟨[], .empty⟩

/-- The pid of the process that is served. -/
def servingPid (d : Dispatcher) : ℕ := (d.queue.serving.map fun rank => (ofLex rank).2).getD 0

/-- What an event means for the queue. -/
def next (d : Dispatcher) : TableEvent → Dispatcher
  | .create pid priority rtParams withinBound =>
      if pid.isSome ∧ d.priorities.length < schedulerMaxProcesses ∧
          schedulerRtFeasibilityCheck rtParams withinBound = true then
        { d with priorities := d.priorities ++ [priority] }
      else d
  | .tick _ => d
  | .iterate _ _ => { d with queue := d.queue.serve }
  | .setState i state =>
      match d.priorities[i]? with
      | none => d
      | some priority =>
          let rank : ℕ ×ₗ ℕ := toLex (priority.value, i + 1)
          if state = .ready ∧ priority.value < ProcessPriority.count.value then
            { d with queue := d.queue.arrive rank }
          else { d with queue := d.queue.leave rank }

/-- One event; the reply is the pid that is served after it. -/
def step (d : Dispatcher) (event : TableEvent) : ℕ × Dispatcher :=
  ((d.next event).servingPid, d.next event)

end Dispatcher

namespace SchedulerState

/-- One event; the reply is the current pid after it. -/
def pidStep (s : SchedulerState) (event : TableEvent) : ℕ × SchedulerState :=
  ((s.tableStep event).2.currentPid.toNat, (s.tableStep event).2)

/-- The queue shows the table. -/
structure Shows (d : Dispatcher) (s : SchedulerState) : Prop where
  identified : s.Identified
  priorities : d.priorities = s.processes.map (·.priority)
  waiting : ∀ a, a ∈ d.queue.waiting ↔ ∃ p ∈ s.processes, p.Waits ∧ p.rank = a
  serving : (d.queue.serving = none ∧ s.currentPid = schedulerIdlePid) ∨
    ∃ p ∈ s.processes, d.queue.serving = some p.rank ∧ s.currentPid = p.pid

variable {d : Dispatcher} {s s' : SchedulerState} {p q : ProcessControlBlock}

theorem shows_schedulerInit (uptime : UInt64) : Shows .empty (schedulerInit uptime) where
  identified := identified_schedulerInit uptime
  priorities := rfl
  waiting a := by simp [Dispatcher.empty, ReadyQueue.empty, schedulerInit, processes]
  serving := .inl ⟨rfl, rfl⟩

theorem Shows.servingPid_eq (h : Shows d s) : d.servingPid = s.currentPid.toNat := by
  rcases h.serving with ⟨hnone, hidle⟩ | ⟨p, -, hsome, hcurrent⟩
  · rw [Dispatcher.servingPid, hnone, hidle]
    rfl
  · rw [Dispatcher.servingPid, hsome, hcurrent]
    rfl

/-- Processes with the same rank are the same. -/
theorem Numbered.eq_of_rank_eq (h : s.Numbered) (hp : p ∈ s.processes) (hq : q ∈ s.processes)
    (hrank : p.rank = q.rank) : p = q := by
  have hpids : p.pid.toNat = q.pid.toNat := congrArg (fun a => (ofLex a).2) hrank
  exact h.eq_of_pid_eq hp hq (UInt16.toNat_inj.mp hpids)

/-! ## selection -/

theorem rank_le_iff : p.rank ≤ q.rank ↔ p.priority.value < q.priority.value ∨
    p.priority.value = q.priority.value ∧ p.pid ≤ q.pid := by
  rw [ProcessControlBlock.rank, ProcessControlBlock.rank, Prod.Lex.toLex_le_toLex,
    UInt16.le_iff_toNat_le]

/-- The leading process is the least one of the queue. -/
theorem Shows.isLeast (h : Shows d s) (hp : Leads s.processes p) :
    IsLeast (d.queue.waiting : Set (ℕ ×ₗ ℕ)) p.rank := by
  refine ⟨(h.waiting _).mpr ⟨p, hp.mem, ⟨hp.ready, hp.valid⟩, rfl⟩, fun a ha => ?_⟩
  obtain ⟨q, hq, hwaits, rfl⟩ := (h.waiting a).mp ha
  exact rank_le_iff.mpr (hp.first q hq hwaits.1)

theorem Shows.waiting_eq_empty (h : Shows d s) (hnone : NoneLeads s.processes) :
    d.queue.waiting = ∅ := by
  refine Finset.eq_empty_of_forall_notMem fun a ha => ?_
  obtain ⟨q, hq, hwaits, -⟩ := (h.waiting a).mp ha
  exact absurd (hnone q hq hwaits.1) (Nat.not_le_of_lt hwaits.2)

theorem Shows.serving_eq_iff (h : Shows d s) (hp : p ∈ s.processes) :
    d.queue.serving = some p.rank ↔ p.pid = s.currentPid := by
  have hnumbered : s.Numbered := h.identified.pids
  rcases h.serving with ⟨hnone, hidle⟩ | ⟨q, hq, hsome, hcurrent⟩
  · rw [hnone, hidle]
    exact iff_of_false nofun (hnumbered.pid_ne_idle hp)
  · rw [hsome, hcurrent, Option.some.injEq]
    constructor
    · intro hrank
      rw [hnumbered.eq_of_rank_eq hq hp hrank]
    · intro hpid
      rw [hnumbered.eq_of_pid_eq hp hq hpid]

/-! ## one event -/

/-- A change of the processes one by one that keeps their pids and priorities. -/
theorem Shows.of_map (h : Shows d s) {d' : Dispatcher} (hs' : s'.Identified)
    {g : ProcessControlBlock → ProcessControlBlock} (hprocesses : s'.processes = s.processes.map g)
    (hg : ∀ p ∈ s.processes, (g p).pid = p.pid ∧ (g p).priority = p.priority)
    (hpriorities : d'.priorities = d.priorities)
    (hwaiting : ∀ a, a ∈ d'.queue.waiting ↔ ∃ p ∈ s.processes, (g p).Waits ∧ p.rank = a)
    (hserving : (d'.queue.serving = none ∧ s'.currentPid = schedulerIdlePid) ∨
      ∃ p ∈ s.processes, d'.queue.serving = some p.rank ∧ s'.currentPid = p.pid) :
    Shows d' s' := by
  have hrank : ∀ p ∈ s.processes, (g p).rank = p.rank := by
    intro p hp
    rw [ProcessControlBlock.rank, (hg p hp).1, (hg p hp).2, ProcessControlBlock.rank]
  refine ⟨hs', ?_, fun a => ?_, ?_⟩
  · rw [hpriorities, h.priorities, hprocesses, List.map_map]
    exact (List.map_congr_left fun p hp => (hg p hp).2).symm
  · rw [hwaiting, hprocesses]
    constructor
    · rintro ⟨p, hp, hwaits, rfl⟩
      exact ⟨g p, List.mem_map_of_mem hp, hwaits, hrank p hp⟩
    · rintro ⟨_, hmem, hwaits, rfl⟩
      obtain ⟨p, hp, rfl⟩ := List.mem_map.mp hmem
      exact ⟨p, hp, hwaits, (hrank p hp).symm⟩
  · rw [hprocesses]
    refine hserving.imp_right fun ⟨p, hp, hsome, hcurrent⟩ => ⟨g p, List.mem_map_of_mem hp, ?_, ?_⟩
    · rw [hsome, hrank p hp]
    · rw [hcurrent, (hg p hp).1]

/-- A created process does not wait. -/
theorem Shows.create (h : Shows d s) (pid : Option UInt16) (priority : ProcessPriority)
    (rtParams : Option RtSchedulingParams) (withinBound : Bool) :
    Shows (d.next (.create pid priority rtParams withinBound))
      (processCreate s pid priority rtParams withinBound).2.2 := by
  have hidentified := (h.identified.processCreate pid priority rtParams withinBound).1
  have hlength : d.priorities.length = s.processCount.toNat := by
    rw [h.priorities, List.length_map, length_processes]
  have hkept {s' : SchedulerState} (hs' : s'.Identified) (hprocesses : s'.processes = s.processes)
      (hcurrent : s'.currentPid = s.currentPid) : Shows d s' := by
    refine ⟨hs', ?_, ?_, ?_⟩
    · rw [hprocesses, h.priorities]
    · rw [hprocesses]
      exact h.waiting
    · rw [hprocesses, hcurrent]
      exact h.serving
  have hcases := processCreate_spec s pid priority rtParams withinBound
  generalize processCreate s pid priority rtParams withinBound = result at hcases hidentified ⊢
  simp only [Dispatcher.next, hlength]
  cases hcases with
  | refused hrefused =>
      rw [if_neg]
      · exact h
      · rintro ⟨hsome, hroom, -⟩
        rcases hrefused with rfl | hfull
        · contradiction
        · have hnone := length_freeSlots s
          rw [hfull, List.length_nil] at hnone
          omega
  | rejected _ hinfeasible hcurrent _ hprocesses _ =>
      rw [if_neg]
      · exact hkept hidentified hprocesses hcurrent
      · rintro ⟨-, -, hfeasible⟩
        exact absurd (hfeasible.symm.trans hinfeasible) (by decide)
  | admitted hpid hslots hfeasible hcurrent _ hprocesses _ =>
      have hroom : s.processCount.toNat < schedulerMaxProcesses := by
        have hlen := length_freeSlots s
        rw [hslots, List.length_cons] at hlen
        omega
      rw [if_pos ⟨Option.isSome_iff_ne_none.mpr hpid, hroom, hfeasible⟩]
      refine ⟨hidentified, ?_, fun a => ?_, ?_⟩
      · rw [hprocesses, List.map_append, h.priorities]
        rfl
      · rw [hprocesses, h.waiting]
        refine exists_congr fun p => and_congr_left fun ⟨hwaits, _⟩ => ?_
        rw [List.mem_append, List.mem_singleton]
        refine (or_iff_left ?_).symm
        rintro rfl
        exact ProcessState.noConfusion hwaits.1
      · rw [hprocesses, hcurrent]
        exact h.serving.imp_right fun ⟨p, hp, hserving⟩ => ⟨p, List.mem_append_left _ hp, hserving⟩

/-- Entry `i` is process `i + 1`. -/
theorem Numbered.pid_of_getElem? (h : s.Numbered) {i : Nat} (hi : s.processes[i]? = some p) :
    p.pid.toNat = i + 1 := by
  have hpid : (s.processes.map fun p => p.pid.toNat)[i]? = some p.pid.toNat := by
    rw [List.getElem?_map, hi]
    rfl
  rw [h] at hpid
  obtain ⟨hlt, hnumber⟩ := List.getElem?_eq_some_iff.mp hpid
  rw [List.getElem_range'] at hnumber
  omega

theorem Numbered.pid_eq_succ_iff (h : s.Numbered) {i : Nat} (hi : s.processes[i]? = some p)
    (hq : q ∈ s.processes) : q.pid.toNat = i + 1 ↔ q = p := by
  rw [← h.pid_of_getElem? hi]
  constructor
  · exact fun heq => h.eq_of_pid_eq hq (List.mem_of_getElem? hi) (UInt16.toNat_inj.mp heq)
  · exact fun heq => congrArg (fun r => r.pid.toNat) heq

/-- A change of entry `i` is one of process `i + 1`. -/
theorem Numbered.modify_eq_map (h : s.Numbered) (i : Nat)
    (f : ProcessControlBlock → ProcessControlBlock) :
    s.processes.modify i f =
      s.processes.map fun p => if p.pid.toNat = i + 1 then f p else p := by
  refine List.ext_getElem? fun j => ?_
  rw [List.getElem?_modify, List.getElem?_map]
  cases hj : s.processes[j]? with
  | none => rfl
  | some p =>
      have hpid := h.pid_of_getElem? hj
      have hsame : i = j ↔ p.pid.toNat = i + 1 := by omega
      simp only [hsame]
      rfl

theorem Shows.setState (h : Shows d s) (i : Nat) (state : ProcessState) :
    Shows (d.next (.setState i state)) (s.move i state) := by
  have hnumbered : s.Numbered := h.identified.pids
  have hidentified := (h.identified.move i state).1
  have hcurrent := currentPid_move s i state
  have hprocesses := processes_move s i state
  have hpriority : d.priorities[i]? = s.processes[i]?.map (·.priority) := by
    rw [h.priorities, List.getElem?_map]
  simp only [Dispatcher.next, hpriority]
  cases hi : s.processes[i]? with
  | none =>
      rw [List.modify_eq_self (List.getElem?_eq_none_iff.mp hi)] at hprocesses
      refine ⟨hidentified, ?_, ?_, ?_⟩
      · rw [hprocesses]
        exact h.priorities
      · rw [hprocesses]
        exact h.waiting
      · rw [hprocesses, hcurrent]
        exact h.serving
  | some p =>
      have hp : p ∈ s.processes := List.mem_of_getElem? hi
      have hpid := hnumbered.pid_of_getElem? hi
      have hrank : (toLex (p.priority.value, i + 1) : ℕ ×ₗ ℕ) = p.rank := by
        rw [ProcessControlBlock.rank, hpid]
      have hsame (q : ProcessControlBlock) (hq : q ∈ s.processes) :
          q.pid.toNat = i + 1 ↔ q = p := hnumbered.pid_eq_succ_iff hi hq
      rw [hnumbered.modify_eq_map] at hprocesses
      simp only [Option.map_some, hrank]
      have hserving := h.serving
      rw [← hcurrent] at hserving
      have hfields : ∀ q ∈ s.processes,
          (if q.pid.toNat = i + 1 then { q with state } else q).pid = q.pid ∧
            (if q.pid.toNat = i + 1 then { q with state } else q).priority = q.priority := by
        intro q _
        split <;> exact ⟨rfl, rfl⟩
      by_cases harrives : state = .ready ∧ p.priority.value < ProcessPriority.count.value
      · rw [if_pos harrives]
        refine h.of_map hidentified hprocesses hfields rfl (fun a => ?_) hserving
        rw [ReadyQueue.arrive, Finset.mem_insert, h.waiting]
        constructor
        · rintro (rfl | ⟨q, hq, hwaits, rfl⟩)
          · refine ⟨p, hp, ?_, rfl⟩
            rw [if_pos hpid]
            exact harrives
          · refine ⟨q, hq, ?_, rfl⟩
            by_cases hqp : q.pid.toNat = i + 1
            · rw [if_pos hqp]
              exact ⟨harrives.1, hwaits.2⟩
            · rwa [if_neg hqp]
        · rintro ⟨q, hq, hwaits, rfl⟩
          by_cases hqp : q.pid.toNat = i + 1
          · exact .inl (congrArg _ ((hsame q hq).mp hqp))
          · rw [if_neg hqp] at hwaits
            exact .inr ⟨q, hq, hwaits, rfl⟩
      · rw [if_neg harrives]
        refine h.of_map hidentified hprocesses hfields rfl (fun a => ?_) hserving
        rw [ReadyQueue.leave, Finset.mem_erase, h.waiting]
        constructor
        · rintro ⟨hne, q, hq, hwaits, rfl⟩
          refine ⟨q, hq, ?_, rfl⟩
          rwa [if_neg fun hqp => hne (congrArg _ ((hsame q hq).mp hqp))]
        · rintro ⟨q, hq, hwaits, rfl⟩
          by_cases hqp : q.pid.toNat = i + 1
          · obtain rfl := (hsame q hq).mp hqp
            rw [if_pos hqp] at hwaits
            exact absurd hwaits harrives
          · rw [if_neg hqp] at hwaits
            refine ⟨fun heq => hqp ?_, q, hq, hwaits, rfl⟩
            rw [hnumbered.eq_of_rank_eq hq hp heq, hpid]

theorem Shows.iterate (h : Shows d s) (t checkTime : UInt64) :
    Shows (d.next (.iterate t checkTime)) (s.iterate t checkTime).2 := by
  have hnumbered : s.Numbered := h.identified.pids
  have hidentified := (h.identified.tableStep (.iterate t checkTime)).identified
  have hcurrent := currentPid_iterate s t checkTime
  obtain ⟨g, hprocesses, hg⟩ := processes_iterate hnumbered t checkTime
  have hfields : ∀ q ∈ s.processes, (g q).pid = q.pid ∧ (g q).priority = q.priority :=
    fun q _ => ⟨(hg q).pid, (hg q).priority⟩
  rcases selectNext_cases hnumbered.pairwise_lt with ⟨hnone, hnext⟩ | ⟨p, hp, hnext⟩
  · have hempty := h.waiting_eq_empty hnone
    rw [Dispatcher.next, ReadyQueue.serve_of_empty hempty]
    refine h.of_map hidentified hprocesses hfields rfl (fun a => ?_) (.inl ⟨rfl, ?_⟩)
    · refine iff_of_false (Finset.notMem_empty a) ?_
      rintro ⟨q, hq, hwaits, -⟩
      rw [ProcessControlBlock.Waits, (hg q).state, (hg q).priority, stateAfter, nextPid, hnext,
        if_neg fun heq => hnumbered.pid_ne_idle hq heq.1] at hwaits
      exact absurd (hnone q hq hwaits.1) (Nat.not_le_of_lt hwaits.2)
    · exact hcurrent.trans hnext
  · have hleast := h.isLeast hp
    have hserved := h.serving_eq_iff hp.mem
    rw [Dispatcher.next, ReadyQueue.serve_of_isLeast hleast]
    by_cases hsame : p.pid = s.currentPid
    · rw [if_pos (hserved.mpr hsame)]
      refine h.of_map hidentified hprocesses hfields rfl (fun a => ?_) (.inr ⟨p, hp.mem, ?_, ?_⟩)
      · rw [h.waiting]
        refine exists_congr fun q => and_congr_right fun hq => and_congr_left fun _ => ?_
        rw [ProcessControlBlock.Waits, ProcessControlBlock.Waits, (hg q).state, (hg q).priority,
          stateAfter, nextPid, hnext, if_neg fun heq => heq.2 hsame]
      · exact hserved.mpr hsame
      · exact hcurrent.trans hnext
    · rw [if_neg fun hsome => hsame (hserved.mp hsome)]
      refine h.of_map hidentified hprocesses hfields rfl (fun a => ?_)
        (.inr ⟨p, hp.mem, rfl, hcurrent.trans hnext⟩)
      rw [Finset.mem_erase, h.waiting]
      constructor
      · rintro ⟨hne, q, hq, hwaits, rfl⟩
        refine ⟨q, hq, ?_, rfl⟩
        rw [ProcessControlBlock.Waits, (hg q).state, (hg q).priority, stateAfter, nextPid, hnext,
          if_neg fun heq => hne (congrArg _ (hnumbered.eq_of_pid_eq hq hp.mem heq.1))]
        exact hwaits
      · rintro ⟨q, hq, hwaits, rfl⟩
        rw [ProcessControlBlock.Waits, (hg q).state, (hg q).priority, stateAfter, nextPid,
          hnext] at hwaits
        by_cases hqp : q.pid = p.pid
        · rw [if_pos ⟨hqp, hsame⟩] at hwaits
          exact ProcessState.noConfusion hwaits.1
        · rw [if_neg fun heq => hqp heq.1] at hwaits
          exact ⟨fun heq => hqp (congrArg _ (hnumbered.eq_of_rank_eq hq hp.mem heq)), q, hq, hwaits,
            rfl⟩

/-- A tick charges time and moves no process. -/
theorem Shows.tick (h : Shows d s) (t : UInt64) : Shows (d.next (.tick t)) (schedulerTick s t) := by
  have hnumbered : s.Numbered := h.identified.pids
  have hidentified := (h.identified.tableStep (.tick t)).identified
  have hcurrent := currentPid_schedulerTick s t
  have htimes : ∃ used : ProcessControlBlock → UInt64,
      (schedulerTick s t).processes = s.processes.map fun p => { p with timeUsed := used p } := by
    rw [schedulerTick]
    split
    · refine ⟨fun p => if p.pid = s.currentPid then p.timeUsed + schedulerTimeSliceUs
        else p.timeUsed, ?_⟩
      refine (hnumbered.processes_updateProcess s.currentPid _).trans ?_
      refine List.map_congr_left fun p _ => ?_
      by_cases hpid : p.pid = s.currentPid
      · simp only [if_pos hpid]
      · simp only [if_neg hpid]
    · exact ⟨(·.timeUsed), (List.map_id' _).symm⟩
  obtain ⟨used, hprocesses⟩ := htimes
  have hserving := h.serving
  rw [← hcurrent] at hserving
  exact h.of_map hidentified hprocesses (fun _ _ => ⟨rfl, rfl⟩) rfl h.waiting hserving

/-- **One event** of the scheduler is one of the queue. -/
theorem Shows.step (h : Shows d s) (event : TableEvent) :
    (s.pidStep event).1 = (d.step event).1 ∧ Shows (d.step event).2 (s.pidStep event).2 := by
  have hnext : Shows (d.next event) (s.tableStep event).2 := by
    cases event with
    | create pid priority rtParams withinBound => exact h.create pid priority rtParams withinBound
    | tick currentTime => exact h.tick currentTime
    | iterate currentTime checkTime => exact h.iterate currentTime checkTime
    | setState i state => exact h.setState i state
  exact ⟨hnext.servingPid_eq.symm, hnext⟩

end SchedulerState

/-- **The scheduler refines a queue**: from `scheduler_init` on, whatever is
created, ticked, iterated and moved by other code, the current pids are those
that the queue of ready processes serves. -/
theorem scheduler_refines_ready_queue (uptime : UInt64) (events : List TableEvent) :
    (mealy SchedulerState.pidStep (schedulerInit uptime) events).1 =
      (mealy Dispatcher.step .empty events).1 := by
  have hrun := mealy_refines
    (fun s d event (hshows : SchedulerState.Shows d s) => hshows.step event)
    (SchedulerState.shows_schedulerInit uptime) events
  exact hrun.1

/-! ## the loop left alone -/

namespace SchedulerState

/-- The queue of a table. -/
def dispatcher (s : SchedulerState) : Dispatcher where
  priorities := s.processes.map (·.priority)
  queue :=
    { waiting := ((s.processes.filter (·.Waits)).map (·.rank)).toFinset
      serving := (s.processes.find? (·.pid = s.currentPid)).map (·.rank) }

/-- The pids of the processes that wait, in the order of the queue. -/
def readyOrder (s : SchedulerState) : List ℕ :=
  s.dispatcher.queue.waiting.sort.map fun rank => (ofLex rank).2

/-- An iteration with its two readings; the reply is the current pid after it. -/
def passStep (s : SchedulerState) (readings : UInt64 × UInt64) : ℕ × SchedulerState :=
  ((s.iterate readings.1 readings.2).2.currentPid.toNat, (s.iterate readings.1 readings.2).2)

end SchedulerState

/-- The intervals between the readings of the iterations. -/
def intervals (last : UInt64) : List (UInt64 × UInt64) → List (UInt64 × UInt64)
  | [] => []
  | (now, _) :: readings => (last, now) :: intervals now readings

/-- A process that was given the pass at the end of an interval. -/
def ProcessControlBlock.pass (p : ProcessControlBlock) (interval : UInt64 × UInt64) :
    ProcessControlBlock :=
  { p with
    state := .running
    lastScheduledTime := interval.2
    timeUsed := p.timeUsed + (interval.2 - interval.1) }

/-- A process after the passes that were given to pids. -/
def ProcessControlBlock.after (passes : List (ℕ × (UInt64 × UInt64))) (p : ProcessControlBlock) :
    ProcessControlBlock :=
  match passes.lookup p.pid.toNat with
  | some interval => p.pass interval
  | none => p

namespace ProcessControlBlock

variable {p : ProcessControlBlock} {passes : List (ℕ × (UInt64 × UInt64))}
  {interval : UInt64 × UInt64}

theorem after_of_lookup (h : passes.lookup p.pid.toNat = some interval) :
    p.after passes = p.pass interval := by
  rw [after, h]

theorem pid_after (passes : List (ℕ × (UInt64 × UInt64))) (p : ProcessControlBlock) :
    (p.after passes).pid = p.pid := by
  rw [after]
  split <;> rfl

theorem after_of_not_mem (h : ∀ pass ∈ passes, p.pid.toNat ≠ pass.1) : p.after passes = p := by
  have hnone : passes.lookup p.pid.toNat = none :=
    List.lookup_eq_none_iff.mpr fun pass hpass => bne_iff_ne.mpr (h pass hpass)
  rw [after, hnone]

theorem after_cons_self : p.after ((p.pid.toNat, interval) :: passes) = p.pass interval :=
  after_of_lookup List.lookup_cons_self

theorem after_cons_of_ne {n : ℕ} (h : p.pid.toNat ≠ n) :
    p.after ((n, interval) :: passes) = p.after passes := by
  rw [after, List.lookup_cons, beq_eq_false_iff_ne.mpr h, after]

end ProcessControlBlock

namespace SchedulerState

variable {d : Dispatcher} {s : SchedulerState} {p : ProcessControlBlock}

theorem shows_dispatcher (h : s.Identified) : Shows s.dispatcher s where
  identified := h
  priorities := rfl
  waiting a := by simp [dispatcher, and_assoc]
  serving := by
    cases hfind : s.processes.find? (·.pid = s.currentPid) with
    | none =>
        refine .inl ⟨?_, h.current.resolve_right fun hmem => ?_⟩
        · rw [dispatcher, hfind]
          rfl
        · obtain ⟨p, hp, hpid⟩ := List.mem_map.mp hmem
          exact absurd hpid (by simpa using List.find?_eq_none.mp hfind p hp)
    | some p =>
        have hpid := List.find?_some hfind
        refine .inr ⟨p, List.mem_of_find?_eq_some hfind, ?_, (of_decide_eq_true hpid).symm⟩
        rw [dispatcher, hfind]
        rfl

/-- A process is selected afresh: it is not the current one, unless the
scheduler idles. -/
def Fresh (s : SchedulerState) : Prop :=
  s.nextPid = s.currentPid → s.currentPid = schedulerIdlePid

instance (s : SchedulerState) : Decidable s.Fresh := inferInstanceAs (Decidable (_ → _))

/-- The least process of the queue leads. -/
theorem Shows.leads (h : Shows d s) (hp : p ∈ s.processes) (hwaits : p.Waits)
    (hleast : IsLeast (d.queue.waiting : Set (ℕ ×ₗ ℕ)) p.rank) : Leads s.processes p := by
  refine ⟨hp, hwaits.1, hwaits.2, fun q hq hready => ?_⟩
  by_cases hvalid : q.priority.value < ProcessPriority.count.value
  · exact rank_le_iff.mp (hleast.2 ((h.waiting _).mpr ⟨q, hq, ⟨hready, hvalid⟩, rfl⟩))
  · exact .inl (Nat.lt_of_lt_of_le hwaits.2 (Nat.le_of_not_lt hvalid))

theorem Shows.fresh_iff (h : Shows d s) : d.queue.Fresh ↔ s.Fresh := by
  have hnumbered : s.Numbered := h.identified.pids
  constructor
  · intro hfresh hsame
    rcases selectNext_cases hnumbered.pairwise_lt with ⟨-, hnext⟩ | ⟨p, hp, hnext⟩
    · exact hsame.symm.trans hnext
    · have hserving := (h.serving_eq_iff hp.mem).mpr (hnext.symm.trans hsame)
      exact absurd hserving (hfresh _ (h.isLeast hp))
  · intro hfresh a hleast hserving
    obtain ⟨p, hp, hwaits, rfl⟩ := (h.waiting a).mp hleast.1
    have hcurrent := (h.serving_eq_iff hp).mp hserving
    have hnext := (nextPid_eq_iff hnumbered hp).mpr (h.leads hp hwaits hleast)
    exact hnumbered.pid_ne_idle hp (hcurrent.trans (hfresh (hnext.trans hcurrent)))

/-- A process that is charged. -/
def charged (pid : UInt16) (time : UInt64) (p : ProcessControlBlock) : ProcessControlBlock :=
  if p.pid = pid then { p with timeUsed := p.timeUsed + time } else p

/-- The accounting charges the current process. -/
theorem processes_accountTime_eq (h : s.Numbered) (t : UInt64) :
    (s.accountTime t).processes =
      s.processes.map (charged s.currentPid (t - s.lastTickTime)) := by
  rw [accountTime]
  split
  · exact h.processes_updateProcess _ _
  · next hidle =>
    have hnone : ∀ p ∈ s.processes, p.pid ≠ s.currentPid :=
      fun p hp hpid => hidle fun hcurrent => h.pid_ne_idle hp (hpid.trans hcurrent)
    refine (List.map_id' _).symm.trans (List.map_congr_left fun p hp => ?_)
    exact (if_neg (hnone p hp)).symm

/-- **The table after an iteration**: the selected process is switched to, if it
was not the current one, and charged. -/
theorem processes_iterate_eq (h : s.Numbered) (t checkTime : UInt64) :
    (s.iterate t checkTime).2.processes = s.processes.map fun p =>
      charged s.nextPid (t - s.lastTickTime)
        (if p.pid = s.nextPid ∧ s.nextPid ≠ s.currentPid then
          { p with state := .running, lastScheduledTime := t } else p) := by
  obtain ⟨check, ticks, heq⟩ := s.iterate_eq t checkTime
  have hcheck : { s with lastDeadlineCheck := check }.Numbered := h
  have hprocesses : (s.iterate t checkTime).2.processes =
      (({ s with lastDeadlineCheck := check }.dispatch s.nextPid t).accountTime t).processes := by
    rw [heq]
    rfl
  rw [hprocesses, processes_accountTime_eq (hcheck.dispatch _ _), processes_dispatch hcheck,
    List.map_map, currentPid_dispatch, lastTickTime_dispatch]
  rfl

/-- A pass of a scheduler that does not select the current process again. -/
theorem processes_iterate_of_fresh (h : s.Numbered) (hfresh : s.Fresh) (t checkTime : UInt64) :
    (s.iterate t checkTime).2.processes = s.processes.map fun p =>
      if p.pid = s.nextPid then p.pass (s.lastTickTime, t) else p := by
  rw [processes_iterate_eq h]
  refine List.map_congr_left fun p hp => ?_
  by_cases hpid : p.pid = s.nextPid
  · have hswitch : s.nextPid ≠ s.currentPid := fun hsame =>
      h.pid_ne_idle hp (hpid.trans (hsame.trans (hfresh hsame)))
    rw [if_pos ⟨hpid, hswitch⟩, if_pos hpid]
    exact if_pos hpid
  · rw [if_neg fun hboth => hpid hboth.1, if_neg hpid]
    exact if_neg hpid

theorem lastTickTime_iterate (s : SchedulerState) (t checkTime : UInt64) :
    (s.iterate t checkTime).2.lastTickTime = t := rfl

/-- The pids in the order of the queue. -/
theorem Shows.order_eq (h : Shows d s) :
    s.readyOrder = d.queue.waiting.sort.map fun rank => (ofLex rank).2 := by
  have hsame : s.dispatcher.queue.waiting = d.queue.waiting := by
    ext a
    rw [h.waiting, (shows_dispatcher h.identified).waiting]
  rw [readyOrder, hsame]

theorem Shows.nodup_readyOrder (h : Shows d s) : s.readyOrder.Nodup := by
  have hnumbered : s.Numbered := h.identified.pids
  rw [h.order_eq]
  refine List.Nodup.map_on (fun a ha b hb hpid => ?_) (Finset.sort_nodup _ _)
  obtain ⟨p, hp, -, rfl⟩ := (h.waiting a).mp ((Finset.mem_sort _).mp ha)
  obtain ⟨q, hq, -, rfl⟩ := (h.waiting b).mp ((Finset.mem_sort _).mp hb)
  exact congrArg _ (hnumbered.eq_of_pid_eq hp hq (UInt16.toNat_inj.mp hpid))

/-- **One pass**: the first process of the queue is current after it, the
others wait, and the scheduler does not select it again. -/
theorem Shows.pass (h : Shows d s) (hfresh : d.queue.Fresh) (t checkTime : UInt64) :
    let s' := (s.iterate t checkTime).2
    let d' := d.next (.iterate t checkTime)
    Shows d' s' ∧ d'.queue.Fresh ∧ s.nextPid.toNat = s.readyOrder.head?.getD 0 ∧
      s'.readyOrder = s.readyOrder.tail := by
  have hnext := h.iterate t checkTime
  obtain ⟨hfresh', hfirst, hrest⟩ := hfresh.serve
  refine ⟨hnext, hfresh', ?_, ?_⟩
  · have hserving := hnext.servingPid_eq
    rw [currentPid_iterate] at hserving
    rw [← hserving, Dispatcher.servingPid, h.order_eq, List.head?_map, ← hfirst]
    rfl
  · rw [hnext.order_eq, h.order_eq, ← List.map_tail, ← hrest]
    rfl

/-- Who is current after each of the passes. -/
theorem Shows.passes_pids (h : Shows d s) (readings : List (UInt64 × UInt64)) :
    (mealy passStep s readings).1 = (ReadyQueue.servings readings.length d.queue).map
      fun rank => (rank.map fun rank => (ofLex rank).2).getD 0 := by
  induction readings generalizing d s with
  | nil => rfl
  | cons reading readings ih =>
      have hnext : Shows _ (s.passStep reading).2 := h.iterate reading.1 reading.2
      exact congrArg₂ List.cons hnext.servingPid_eq.symm (ih hnext)

/-- The passes that a scheduler gives when it is left alone: one to each
process of the queue, as long as there are iterations. -/
def passes (s : SchedulerState) (readings : List (UInt64 × UInt64)) :
    List (ℕ × (UInt64 × UInt64)) :=
  s.readyOrder.zip (intervals s.lastTickTime readings)

/-- The first pass and the others. -/
theorem Shows.after_passes (h : Shows d s) (hfresh : d.queue.Fresh) (reading : UInt64 × UInt64)
    (readings : List (UInt64 × UInt64)) (hp : p ∈ s.processes) :
    p.after (s.passes (reading :: readings)) =
      (if p.pid = s.nextPid then p.pass (s.lastTickTime, reading.1) else p).after
        ((s.passStep reading).2.passes readings) := by
  have hnumbered : s.Numbered := h.identified.pids
  obtain ⟨hnext, -, hfirst, hrest⟩ := h.pass hfresh reading.1 reading.2
  have htail : (s.passStep reading).2.passes readings =
      s.readyOrder.tail.zip (intervals reading.1 readings) := by
    rw [passes, passStep, hrest, lastTickTime_iterate]
  rw [htail, passes]
  cases horder : s.readyOrder with
  | nil =>
      rw [horder] at hfirst
      have hother : p.pid ≠ s.nextPid := fun hpid =>
        hnumbered.pid_ne_idle hp (hpid.trans (UInt16.toNat_inj.mp hfirst))
      rw [if_neg hother]
      rfl
  | cons first rest =>
      have hnodup := h.nodup_readyOrder
      rw [horder] at hfirst hnodup
      have hcons : (first :: rest).zip (intervals s.lastTickTime (reading :: readings)) =
          (first, (s.lastTickTime, reading.1)) :: rest.zip (intervals reading.1 readings) := rfl
      rw [hcons, List.tail_cons]
      by_cases hpid : p.pid = s.nextPid
      · have hself : first = p.pid.toNat := hfirst.symm.trans (congrArg UInt16.toNat hpid.symm)
        have hgone : ∀ pass ∈ rest.zip (intervals reading.1 readings), first ≠ pass.1 := by
          rintro ⟨n, interval⟩ hpass rfl
          exact (List.nodup_cons.mp hnodup).1 (List.of_mem_zip hpass).1
        rw [if_pos hpid, hself, ProcessControlBlock.after_cons_self]
        rw [hself] at hgone
        exact (ProcessControlBlock.after_of_not_mem (p := p.pass _) hgone).symm
      · have hother : p.pid.toNat ≠ first := fun hsame =>
          hpid (UInt16.toNat_inj.mp (hsame.trans hfirst.symm))
        rw [if_neg hpid, ProcessControlBlock.after_cons_of_ne hother]

/-- **The table after the passes.** -/
theorem processes_passes (h : s.Identified) (hfresh : s.Fresh)
    (readings : List (UInt64 × UInt64)) :
    (mealy passStep s readings).2.processes =
      s.processes.map (·.after (s.passes readings)) := by
  induction readings generalizing s with
  | nil =>
      have hnone : s.passes [] = [] := List.zip_nil_right
      rw [hnone]
      exact (List.map_id' _).symm
  | cons reading readings ih =>
      have hshows := shows_dispatcher h
      have hqueue := hshows.fresh_iff.mpr hfresh
      obtain ⟨hnext, hqueue', -, -⟩ := hshows.pass hqueue reading.1 reading.2
      have hfirst : (s.passStep reading).2.processes = _ :=
        processes_iterate_of_fresh h.pids hfresh reading.1 reading.2
      have hrest : (mealy passStep (s.passStep reading).2 readings).2.processes = _ :=
        ih hnext.identified (hnext.fresh_iff.mp hqueue')
      rw [mealy_cons, hrest, hfirst, List.map_map]
      exact List.map_congr_left fun p hp => (hshows.after_passes hqueue reading readings hp).symm

/-! A process that is selected again keeps the processor. -/

theorem charged_charged (pid : UInt16) (a b : UInt64) (p : ProcessControlBlock) :
    charged pid b (charged pid a p) = charged pid (a + b) p := by
  by_cases hpid : p.pid = pid
  · simp only [charged, if_pos hpid, UInt64.add_assoc]
  · simp only [charged, if_neg hpid]

/-- Selection does not look at the times. -/
theorem selectNext_charged (pid : UInt16) (time : UInt64) (processes : List ProcessControlBlock) :
    selectNext (processes.map (charged pid time)) = selectNext processes := by
  have hfields (p : ProcessControlBlock) : (charged pid time p).state = p.state ∧
      (charged pid time p).pid = p.pid ∧ (charged pid time p).priority = p.priority := by
    rw [charged]
    split <;> exact ⟨rfl, rfl, rfl⟩
  rw [selectNext, List.foldl_map]
  simp only [(hfields _).1, (hfields _).2.1, (hfields _).2.2]
  rfl

theorem not_fresh_iff : ¬ s.Fresh ↔ s.nextPid = s.currentPid ∧ s.currentPid ≠ schedulerIdlePid :=
  Classical.not_imp

theorem iterate_of_not_fresh (h : s.Numbered) (hstays : ¬ s.Fresh) (t checkTime : UInt64) :
    (s.iterate t checkTime).2.processes =
        s.processes.map (charged s.currentPid (t - s.lastTickTime)) ∧
      (s.iterate t checkTime).2.currentPid = s.currentPid ∧
      ¬ (s.iterate t checkTime).2.Fresh := by
  obtain ⟨hsame, hbusy⟩ := not_fresh_iff.mp hstays
  have hcurrent : (s.iterate t checkTime).2.currentPid = s.currentPid :=
    (currentPid_iterate s t checkTime).trans hsame
  have hprocesses : (s.iterate t checkTime).2.processes =
      s.processes.map (charged s.currentPid (t - s.lastTickTime)) := by
    rw [processes_iterate_eq h]
    refine List.map_congr_left fun p _ => ?_
    rw [if_neg fun hboth => hboth.2 hsame, hsame]
  refine ⟨hprocesses, hcurrent, not_fresh_iff.mpr ⟨?_, ?_⟩⟩
  · rw [nextPid, hprocesses, selectNext_charged, hcurrent]
    exact hsame
  · rw [hcurrent]
    exact hbusy

/-- **It keeps it for good**, and is charged all the time. -/
theorem passes_of_not_fresh (h : s.Numbered) (hstays : ¬ s.Fresh)
    (readings : List (UInt64 × UInt64)) :
    let s' := (mealy passStep s readings).2
    (mealy passStep s readings).1 = List.replicate readings.length s.currentPid.toNat ∧
      s'.processes =
        s.processes.map (charged s.currentPid (s'.lastTickTime - s.lastTickTime)) := by
  induction readings generalizing s with
  | nil =>
      have hnone (p : ProcessControlBlock) :
          charged s.currentPid (s.lastTickTime - s.lastTickTime) p = p := by
        rw [charged, UInt64.sub_self]
        simp only [UInt64.add_zero, ite_self]
      refine ⟨rfl, ?_⟩
      change s.processes = _
      exact (List.map_id' _).symm.trans (List.map_congr_left fun p _ => (hnone p).symm)
  | cons reading readings ih =>
      obtain ⟨hprocesses, hcurrent, hstays'⟩ := iterate_of_not_fresh h hstays reading.1 reading.2
      have hnext : (s.passStep reading).2.Numbered := h.iterate reading.1 reading.2
      obtain ⟨hpids, hrest⟩ := ih hnext hstays'
      have hsame : (s.passStep reading).2.currentPid = s.currentPid := hcurrent
      have htable : (s.passStep reading).2.processes = _ := hprocesses
      have htime : (s.passStep reading).2.lastTickTime = reading.1 := rfl
      have hsum (now last next : UInt64) : next - last + (now - next) = now - last := by grind
      rw [hsame] at hpids hrest
      have hreply : (s.passStep reading).1 = s.currentPid.toNat := by rw [passStep, hcurrent]
      simp only [mealy_cons, hreply, hpids, hrest, htable, List.map_map, htime, List.length_cons,
        List.replicate_succ, true_and]
      refine List.map_congr_left fun p _ => ?_
      rw [Function.comp_apply, charged_charged, hsum]

end SchedulerState

/-- **The loop left alone**, from any reachable state.  If the current process
is not the one that is selected, each process that waits runs for one pass: the
iterations make them current in the order of the queue and then idle; such a
process is RUNNING from its pass on and charged that interval only, and a
deadline check reports it exactly if it is later than the deadline after that
pass.  Otherwise the current process keeps the processor and is charged all the
time. -/
theorem ready_processes_run_once {s : SchedulerState} (h : s.Identified)
    (readings : List (UInt64 × UInt64)) :
    let s' := (mealy SchedulerState.passStep s readings).2
    let pids := (mealy SchedulerState.passStep s readings).1
    (s.Fresh →
      pids = (List.range readings.length).map (fun k => s.readyOrder[k]?.getD 0) ∧
      s'.processes = s.processes.map (·.after (s.passes readings)) ∧
      ∀ p ∈ s.processes, ∀ interval, (s.passes readings).lookup p.pid.toNat = some interval →
        ∀ checkTime, p.pid ∈ schedulerCheckDeadlines s' checkTime ↔
          p.rtParams.periodMs > 0 ∧ checkTime - interval.2 > p.rtParams.deadlineUs) ∧
    (¬ s.Fresh →
      pids = List.replicate readings.length s.currentPid.toNat ∧
      s'.processes = s.processes.map
        (SchedulerState.charged s.currentPid (s'.lastTickTime - s.lastTickTime))) := by
  refine ⟨fun hfresh => ?_, fun hstays => SchedulerState.passes_of_not_fresh h.pids hstays _⟩
  have hshows := SchedulerState.shows_dispatcher h
  have hprocesses := SchedulerState.processes_passes h hfresh readings
  refine ⟨?_, hprocesses, fun p hp interval hlookup checkTime => ?_⟩
  · rw [hshows.passes_pids, (hshows.fresh_iff.mpr hfresh).servings_eq, List.map_map]
    refine List.map_congr_left fun k _ => ?_
    rw [hshows.order_eq, List.getElem?_map]
    rfl
  · have hafter := ProcessControlBlock.after_of_lookup hlookup
    rw [schedulerCheckDeadlines, hprocesses, List.mem_map]
    constructor
    · rintro ⟨_, hmem, hpid⟩
      obtain ⟨hmem, hmissed⟩ := List.mem_filter.mp hmem
      obtain ⟨q, hq, rfl⟩ := List.mem_map.mp hmem
      rw [ProcessControlBlock.pid_after] at hpid
      obtain rfl := SchedulerState.Numbered.eq_of_pid_eq h.pids hq hp hpid
      rw [hafter] at hmissed
      exact (of_decide_eq_true hmissed).2
    · intro hmissed
      refine ⟨p.after (s.passes readings), List.mem_filter.mpr ⟨List.mem_map_of_mem hp, ?_⟩,
        ProcessControlBlock.pid_after _ p⟩
      rw [hafter]
      exact decide_eq_true ⟨rfl, hmissed⟩

/-- Three ready processes; the second is a critical one with a deadline of 5 ms. -/
def threeReady : SchedulerState :=
  (mealy SchedulerState.pidStep (schedulerInit 0)
    [.create (some 0) .normal none true, .create (some 0) .critical (some ⟨10, 5, 1000, 0⟩) true,
      .create (some 0) .normal none true, .setState 0 .ready, .setState 1 .ready,
      .setState 2 .ready]).2

/-- Four iterations in 20 ms. -/
def fourReadings : List (UInt64 × UInt64) :=
  [(1000, 1001), (2000, 2001), (3000, 3001), (20000, 20001)]

theorem ready_processes_run_once_threeReady :
    let s' := (mealy SchedulerState.passStep threeReady fourReadings).2
    let pids := (mealy SchedulerState.passStep threeReady fourReadings).1
    (threeReady.Fresh →
      pids = (List.range 4).map (fun k => threeReady.readyOrder[k]?.getD 0) ∧
      s'.processes = threeReady.processes.map (·.after (threeReady.passes fourReadings)) ∧
      ∀ p ∈ threeReady.processes, ∀ interval,
        (threeReady.passes fourReadings).lookup p.pid.toNat = some interval →
        ∀ checkTime, p.pid ∈ schedulerCheckDeadlines s' checkTime ↔
          p.rtParams.periodMs > 0 ∧ checkTime - interval.2 > p.rtParams.deadlineUs) ∧
    (¬ threeReady.Fresh →
      pids = List.replicate 4 threeReady.currentPid.toNat ∧
      s'.processes = threeReady.processes.map
        (SchedulerState.charged threeReady.currentPid
          (s'.lastTickTime - threeReady.lastTickTime))) :=
  ready_processes_run_once ⟨by decide, by decide, by decide, by decide, by decide⟩ fourReadings

end AutoMlos
