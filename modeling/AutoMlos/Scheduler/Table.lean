import AutoMlos.Lib.Run
import AutoMlos.Scheduler.TimeAccounting

/-!
# AutoMlos.Scheduler.Table

The process table over whole runs: who is in it, and what may change.

Creations, ticks, iterations of the scheduling loop and changes of states by
other kernel code come in any order.  Creation only ever adds a process with
the next pid.  The other events keep the pids; ticks and iterations change
nothing but the entry of the current process (`Framed`).
-/

namespace AutoMlos

open Lib

/-! ## changes to one entry -/

/-- What the loops may do to an entry: they know it by its pid, and change
states and times only. -/
structure ChangedFor (pid : UInt16) (p p' : ProcessControlBlock) : Prop where
  pid_eq : p'.pid = p.pid
  priority : p'.priority = p.priority
  rtParams : p'.rtParams = p.rtParams
  other : p.pid ≠ pid → p' = p

theorem ChangedFor.refl (pid : UInt16) (p : ProcessControlBlock) : ChangedFor pid p p :=
  ⟨rfl, rfl, rfl, fun _ => rfl⟩

theorem ChangedFor.trans {pid : UInt16} {p p' p'' : ProcessControlBlock}
    (h : ChangedFor pid p p') (h' : ChangedFor pid p' p'') : ChangedFor pid p p'' where
  pid_eq := h'.pid_eq.trans h.pid_eq
  priority := h'.priority.trans h.priority
  rtParams := h'.rtParams.trans h.rtParams
  other hne := (h'.other (by rwa [h.pid_eq])).trans (h.other hne)

/-- A loop that changes one entry. -/
theorem forall₂_take_updateFirst {pid : UInt16} {f : ProcessControlBlock → ProcessControlBlock}
    (hf : ∀ p, p.pid = pid → ChangedFor pid p (f p)) (n : Nat)
    (table : List ProcessControlBlock) :
    List.Forall₂ (ChangedFor pid) (table.take n) ((updateFirst pid f n table).take n) := by
  have hrefl (l : List ProcessControlBlock) : List.Forall₂ (ChangedFor pid) l l :=
    List.forall₂_same.mpr fun p _ => .refl pid p
  induction table generalizing n with
  | nil => cases n <;> exact hrefl _
  | cons pcb table ih =>
      cases n with
      | zero => exact .nil
      | succ n =>
          rw [updateFirst, List.take_succ_cons]
          split
          · next hpid =>
            rw [List.take_succ_cons]
            exact .cons (hf pcb hpid) (hrefl _)
          · rw [List.take_succ_cons]
            exact .cons (.refl pid pcb) (ih n)

namespace SchedulerState

/-- Nothing of the table is changed but the entry of the process `pid`, if
there is one, and of that only the state and the times. -/
structure FramedFor (pid : UInt16) (s s' : SchedulerState) : Prop where
  count : s'.processCount = s.processCount
  processes : List.Forall₂ (ChangedFor pid) s.processes s'.processes
  freeSlots : s'.freeSlots = s.freeSlots

variable {s s' s'' : SchedulerState} {pid : UInt16}

/-- A state with the same table. -/
theorem FramedFor.of_table (pid : UInt16) (hcount : s'.processCount = s.processCount)
    (htable : s'.processTable = s.processTable) : FramedFor pid s s' := by
  refine ⟨hcount, ?_, ?_⟩
  · rw [SchedulerState.processes, SchedulerState.processes, hcount, htable]
    exact List.forall₂_same.mpr fun p _ => .refl pid p
  · rw [SchedulerState.freeSlots, SchedulerState.freeSlots, hcount, htable]

theorem FramedFor.trans (h : FramedFor pid s s') (h' : FramedFor pid s' s'') :
    FramedFor pid s s'' where
  count := h'.count.trans h.count
  processes := forall₂_comp h.processes h'.processes fun _ _ _ => ChangedFor.trans
  freeSlots := h'.freeSlots.trans h.freeSlots

theorem framedFor_updateProcess (s : SchedulerState)
    {f : ProcessControlBlock → ProcessControlBlock}
    (hf : ∀ p, p.pid = pid → ChangedFor pid p (f p)) : FramedFor pid s (s.updateProcess pid f) where
  count := rfl
  processes := forall₂_take_updateFirst hf _ _
  freeSlots := freeSlots_updateProcess s pid f

/-- The pids stay. -/
theorem FramedFor.map_pid (h : FramedFor pid s s') :
    s'.processes.map (·.pid) = s.processes.map (·.pid) := by
  have hpids : List.Forall₂ (fun p p' : ProcessControlBlock => p'.pid = p.pid)
      s.processes s'.processes := h.processes.imp fun _ _ hchanged => hchanged.pid_eq
  rw [← List.forall₂_eq_eq_eq, List.forall₂_map_left_iff, List.forall₂_map_right_iff]
  exact hpids.flip

/-! ## the loops of an iteration and of a tick -/

theorem framedFor_dispatch (s : SchedulerState) (next : UInt16) (t : UInt64) :
    FramedFor next s (s.dispatch next t) := by
  by_cases hcurrent : next = s.currentPid
  · rw [dispatch_of_eq hcurrent]
    exact .of_table next rfl rfl
  · rw [dispatch_of_ne hcurrent]
    have hpid : FramedFor next s { s with currentPid := next } := .of_table next rfl rfl
    split
    · exact hpid.trans (framedFor_updateProcess _ fun p hp => ⟨rfl, rfl, rfl, (absurd hp ·)⟩)
    · exact hpid

theorem framedFor_accountTime (s : SchedulerState) (t : UInt64) :
    FramedFor s.currentPid s (s.accountTime t) := by
  rw [accountTime]
  split
  · exact framedFor_updateProcess s fun p hp => ⟨rfl, rfl, rfl, (absurd hp ·)⟩
  · exact .of_table _ rfl rfl

/-- **An iteration** changes the entry of the process it selects. -/
theorem framedFor_iterate (s : SchedulerState) (t checkTime : UInt64) :
    FramedFor (s.iterate t checkTime).2.currentPid s (s.iterate t checkTime).2 := by
  obtain ⟨check, ticks, heq⟩ := s.iterate_eq t checkTime
  have hswitch := framedFor_dispatch { s with lastDeadlineCheck := check } s.nextPid t
  have haccount :=
    framedFor_accountTime ({ s with lastDeadlineCheck := check }.dispatch s.nextPid t) t
  rw [currentPid_dispatch] at haccount
  have hcheck : FramedFor s.nextPid s { s with lastDeadlineCheck := check } :=
    .of_table _ rfl rfl
  rw [currentPid_iterate, heq]
  exact (hcheck.trans (hswitch.trans haccount)).trans (.of_table _ rfl rfl)

theorem currentPid_schedulerTick (s : SchedulerState) (t : UInt64) :
    (schedulerTick s t).currentPid = s.currentPid := by
  rw [schedulerTick]
  split <;> rfl

/-- **A tick** changes that of the current process. -/
theorem framedFor_schedulerTick (s : SchedulerState) (t : UInt64) :
    FramedFor (schedulerTick s t).currentPid s (schedulerTick s t) := by
  rw [currentPid_schedulerTick, schedulerTick]
  split
  · have hupdate : FramedFor s.currentPid s (s.updateProcess s.currentPid fun pcb =>
        { pcb with timeUsed := pcb.timeUsed + schedulerTimeSliceUs }) :=
      framedFor_updateProcess s fun p hp => ⟨rfl, rfl, rfl, (absurd hp ·)⟩
    exact hupdate.trans (.of_table _ rfl rfl)
  · exact .of_table _ rfl rfl

end SchedulerState

/-! ## runs -/

/-- What happens to the process table. -/
inductive TableEvent where
  | create (pid : Option UInt16) (priority : ProcessPriority)
      (rtParams : Option RtSchedulingParams) (withinBound : Bool)
  | tick (currentTime : UInt64)
  | iterate (currentTime checkTime : UInt64)
  | setState (i : Nat) (state : ProcessState)

/-- A tick or an iteration. -/
def TableEvent.Loops : TableEvent → Prop
  | .tick _ => True
  | .iterate _ _ => True
  | _ => False

namespace SchedulerState

/-- One event; what it returns and logs plays no role here. -/
def tableStep (s : SchedulerState) : TableEvent → Unit × SchedulerState
  | .create pid priority rtParams withinBound =>
      ((), (processCreate s pid priority rtParams withinBound).2.2)
  | .tick currentTime => ((), schedulerTick s currentTime)
  | .iterate currentTime checkTime => ((), (s.iterate currentTime checkTime).2)
  | .setState i state => ((), s.move i state)

/-- The processes have the pids 1, 2, … in table order, there is room for
them, and the current pid is the idle one or one of theirs. -/
structure Identified (s : SchedulerState) : Prop where
  pids : s.processes.map (·.pid.toNat) = List.range' 1 s.processCount.toNat
  nodup : (s.processes.map (·.pid)).Nodup
  ne_idle : ∀ p ∈ s.processes, p.pid ≠ schedulerIdlePid
  count_le : s.processCount.toNat ≤ schedulerMaxProcesses
  current : s.currentPid = schedulerIdlePid ∨ s.currentPid ∈ s.processes.map (·.pid)

variable {s s' : SchedulerState}

/-- It is enough that the processes are numbered. -/
theorem Numbered.identified (h : s.Numbered)
    (hcurrent : s.currentPid = schedulerIdlePid ∨ s.currentPid ∈ s.processes.map (·.pid)) :
    s.Identified where
  pids := h
  nodup := h.nodup_pids
  ne_idle _ hp := h.pid_ne_idle hp
  count_le := s.count_le
  current := hcurrent

theorem identified_schedulerInit (uptime : UInt64) : (schedulerInit uptime).Identified :=
  (numbered_schedulerInit uptime).identified (.inl rfl)

/-- What one event does to the table: it stays identified, no process goes, and
a tick or an iteration changes the entry of the process that is current after
it. -/
structure TableKept (s : SchedulerState) (event : TableEvent) (s' : SchedulerState) : Prop where
  identified : s'.Identified
  count_le : s.processCount ≤ s'.processCount
  framed : event.Loops → FramedFor s'.currentPid s s'

/-- An event that keeps the pids, and the current one or selects among them. -/
theorem Identified.of_map_pid (h : s.Identified) (hcount : s'.processCount = s.processCount)
    (hpids : s'.processes.map (·.pid) = s.processes.map (·.pid))
    (hcurrent : s'.currentPid = s.currentPid ∨ s'.currentPid = s.nextPid) : s'.Identified := by
  have hnumbered : s.Numbered := h.pids
  have hnumbered' : s'.Numbered := hnumbered.of_map_pid hcount hpids
  refine hnumbered'.identified ?_
  rw [hpids]
  rcases hcurrent with heq | heq
  · rw [heq]
    exact h.current
  · rw [heq]
    have hnext := nextPid_mem hnumbered
    rwa [map_fst_accounts] at hnext

/-- Creation keeps the processes or appends one with the next pid. -/
theorem Identified.processCreate (h : s.Identified) (pid : Option UInt16)
    (priority : ProcessPriority) (rtParams : Option RtSchedulingParams) (withinBound : Bool) :
    (processCreate s pid priority rtParams withinBound).2.2.Identified ∧
      s.processCount ≤ (processCreate s pid priority rtParams withinBound).2.2.processCount := by
  have hnumbered : s.Numbered := h.pids
  cases pid with
  | none => exact ⟨h, UInt16.le_refl _⟩
  | some pid =>
      have hnumbered' := hnumbered.processCreate pid priority rtParams withinBound
      obtain ⟨hcurrent, ⟨hcount, hprocesses⟩ | ⟨p, hcount, hprocesses, -, -⟩⟩ :=
        processCreate_cases s pid priority rtParams withinBound
      · refine ⟨hnumbered'.identified ?_, UInt16.le_of_eq hcount.symm⟩
        rw [hcurrent, hprocesses]
        exact h.current
      · refine ⟨hnumbered'.identified ?_, ?_⟩
        · rw [hcurrent, hprocesses, List.map_append]
          exact h.current.imp_right (List.mem_append_left _)
        · rw [UInt16.le_iff_toNat_le, hcount]
          exact Nat.le_succ _

theorem Identified.move (h : s.Identified) (i : Nat) (state : ProcessState) :
    (s.move i state).Identified ∧ s.processCount ≤ (s.move i state).processCount := by
  have hcount := processCount_move s i state
  have hcurrent := currentPid_move s i state
  exact ⟨h.of_map_pid hcount (map_pid_move s i state) (.inl hcurrent),
    UInt16.le_of_eq hcount.symm⟩

/-- **One event keeps the table.** -/
theorem Identified.tableStep (h : s.Identified) (event : TableEvent) :
    TableKept s event (s.tableStep event).2 := by
  cases event with
  | create pid priority rtParams withinBound =>
      obtain ⟨hidentified, hcount⟩ := h.processCreate pid priority rtParams withinBound
      exact ⟨hidentified, hcount, False.elim⟩
  | tick currentTime =>
      have hframed := framedFor_schedulerTick s currentTime
      refine ⟨h.of_map_pid hframed.count hframed.map_pid (.inl ?_), ?_, fun _ => hframed⟩
      · exact currentPid_schedulerTick s currentTime
      · exact UInt16.le_of_eq hframed.count.symm
  | iterate currentTime checkTime =>
      have hframed := framedFor_iterate s currentTime checkTime
      refine ⟨h.of_map_pid hframed.count hframed.map_pid (.inr ?_), ?_, fun _ => hframed⟩
      · exact currentPid_iterate s currentTime checkTime
      · exact UInt16.le_of_eq hframed.count.symm
  | setState i state =>
      obtain ⟨hidentified, hcount⟩ := h.move i state
      exact ⟨hidentified, hcount, False.elim⟩

end SchedulerState

/-- **The process table over whole runs**: from `scheduler_init` on it is
identified, loses no process, and a tick or an iteration changes the entry of
the current process only. -/
theorem process_table_kept (uptime : UInt64) (events : List TableEvent) :
    (schedulerInit uptime).Identified ∧
      Always (total SchedulerState.tableStep)
        (fun s event _ s' => SchedulerState.TableKept s event s') (schedulerInit uptime)
        events := by
  have hinit := SchedulerState.identified_schedulerInit uptime
  have hstep (s : SchedulerState) (event : TableEvent) (h : s.Identified) :
      s.TableKept event (s.tableStep event).2 ∧ (s.tableStep event).2.Identified :=
    ⟨h.tableStep event, (h.tableStep event).identified⟩
  exact ⟨hinit, always_total hstep hinit events⟩

end AutoMlos
