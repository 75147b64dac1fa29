import AutoMlos.Scheduler

/-!
# AutoMlos.Scheduler.Creation

What one call of `process_create` does to the table.

The table is the processes followed by the free slots.  A call writes into
the first free slot; success makes that slot a process, a rejection leaves
what was written in the slot.
-/

namespace AutoMlos

namespace SchedulerState

/-- The entries of the table that are no processes yet. -/
def freeSlots (s : SchedulerState) : List ProcessControlBlock :=
  s.processTable.drop s.processCount.toNat

theorem length_freeSlots (s : SchedulerState) :
    s.freeSlots.length = schedulerMaxProcesses - s.processCount.toNat := by
  rw [freeSlots, List.length_drop, s.table_length]

/-- What a call writes into the free slot. -/
def written (s : SchedulerState) (slot : ProcessControlBlock) (priority : ProcessPriority)
    (rtParams : Option RtSchedulingParams) : ProcessControlBlock :=
  slot.recreate (s.processCount + 1) priority rtParams

/-- **The outcomes of `process_create`**: without a pid pointer or a free slot
the call does nothing; otherwise it writes into the first free slot, which
becomes a process if the parameters are feasible and stays free if not. -/
inductive Creation (s : SchedulerState) (pid : Option UInt16) (priority : ProcessPriority)
    (rtParams : Option RtSchedulingParams) (withinBound : Bool) :
    SystemError × Option UInt16 × SchedulerState → Prop
  | refused (h : pid = none ∨ s.freeSlots = []) :
      Creation s pid priority rtParams withinBound (schedulerError errSysInvalidParam, pid, s)
  | rejected {slot : ProcessControlBlock} {slots : List ProcessControlBlock} {s' : SchedulerState}
      (hslots : s.freeSlots = slot :: slots)
      (hfeasible : schedulerRtFeasibilityCheck rtParams withinBound = false)
      (hcurrent : s'.currentPid = s.currentPid) (hcount : s'.processCount = s.processCount)
      (hprocesses : s'.processes = s.processes)
      (hfree : s'.freeSlots = s.written slot priority rtParams :: slots) :
      Creation s pid priority rtParams withinBound
        (schedulerError errSysResourceUnavail, some (s.processCount + 1), s')
  | admitted {slot : ProcessControlBlock} {slots : List ProcessControlBlock} {s' : SchedulerState}
      (hpid : pid ≠ none) (hslots : s.freeSlots = slot :: slots)
      (hfeasible : schedulerRtFeasibilityCheck rtParams withinBound = true)
      (hcurrent : s'.currentPid = s.currentPid) (hcount : s'.processCount = s.processCount + 1)
      (hprocesses : s'.processes = s.processes ++ [s.written slot priority rtParams])
      (hfree : s'.freeSlots = slots) :
      Creation s pid priority rtParams withinBound (schedulerOk, some (s.processCount + 1), s')

/-- A free slot leaves room for one more process. -/
theorem toNat_processCount_succ {s : SchedulerState} (h : s.freeSlots ≠ []) :
    (s.processCount + 1).toNat = s.processCount.toNat + 1 := by
  have hroom : 0 < s.freeSlots.length := List.length_pos_iff.mpr h
  rw [length_freeSlots, schedulerMaxProcesses] at hroom
  rw [UInt16.toNat_add, UInt16.toNat_one]
  omega

variable {s : SchedulerState} {slot : ProcessControlBlock} {slots : List ProcessControlBlock}

theorem length_processes (s : SchedulerState) : s.processes.length = s.processCount.toNat :=
  List.length_take_of_le (by rw [s.table_length]; exact s.count_le)

/-! ## the table after writing into the first free slot -/

section Write

variable (h : s.freeSlots = slot :: slots) (f : ProcessControlBlock → ProcessControlBlock)

include h

theorem modify_processTable :
    s.processTable.modify s.processCount.toNat f = s.processes ++ f slot :: slots := by
  rw [List.modify_eq_take_drop]
  exact congrArg (fun free => s.processes ++ List.modifyHead f free) h

/-- The processes stay as they are. -/
theorem take_modify_processTable :
    (s.processTable.modify s.processCount.toNat f).take s.processCount.toNat = s.processes := by
  rw [modify_processTable h, List.take_left' (length_processes s)]

theorem drop_modify_processTable :
    (s.processTable.modify s.processCount.toNat f).drop s.processCount.toNat =
      f slot :: slots := by
  rw [modify_processTable h, List.drop_left' (length_processes s)]

theorem length_processes_append (pcb : ProcessControlBlock) :
    (s.processes ++ [pcb]).length = (s.processCount + 1).toNat := by
  have hroom : s.freeSlots ≠ [] := by simp [h]
  rw [List.length_append, length_processes, toNat_processCount_succ hroom]
  rfl

/-- With a count raised by one, what was written is the last process. -/
theorem take_succ_modify_processTable :
    (s.processTable.modify s.processCount.toNat f).take (s.processCount + 1).toNat =
      s.processes ++ [f slot] := by
  rw [modify_processTable h, List.append_cons, List.take_left' (length_processes_append h _)]

theorem drop_succ_modify_processTable :
    (s.processTable.modify s.processCount.toNat f).drop (s.processCount + 1).toNat = slots := by
  rw [modify_processTable h, List.append_cons, List.drop_left' (length_processes_append h _)]

end Write

/-- **What `process_create` does** is one of these. -/
theorem processCreate_spec (s : SchedulerState) (pid : Option UInt16)
    (priority : ProcessPriority) (rtParams : Option RtSchedulingParams) (withinBound : Bool) :
    Creation s pid priority rtParams withinBound
      (processCreate s pid priority rtParams withinBound) := by
  unfold processCreate
  cases pid with
  | none => exact .refused (.inl rfl)
  | some pid =>
      dsimp only
      by_cases hfull : s.processCount.toNat ≥ schedulerMaxProcesses
      · rw [dif_pos hfull]
        refine .refused (.inr (List.drop_eq_nil_of_le ?_))
        rwa [s.table_length]
      · rw [dif_neg hfull]
        have hroom : s.freeSlots ≠ [] := by
          rw [← List.length_pos_iff, length_freeSlots]
          omega
        obtain ⟨slot, slots, hslots⟩ := List.exists_cons_of_ne_nil hroom
        split
        · next hinfeasible =>
          exact .rejected hslots hinfeasible.2 rfl rfl (take_modify_processTable hslots _)
            (drop_modify_processTable hslots _)
        · next hnot =>
          have hfeasible : schedulerRtFeasibilityCheck rtParams withinBound = true := by
            cases rtParams with
            | none => rfl
            | some params =>
                by_contra hfalse
                exact hnot ⟨rfl, Bool.eq_false_iff.mpr hfalse⟩
          exact .admitted (by rintro ⟨⟩) hslots hfeasible rfl rfl
            (take_succ_modify_processTable hslots _) (drop_succ_modify_processTable hslots _)

end SchedulerState

end AutoMlos
