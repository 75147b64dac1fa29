import AutoMlos.SystemErrors
import Mathlib.Data.List.Basic

/-!
# AutoMlos.Scheduler

The kernel scheduler (`kernel/core/scheduler.c`): process creation and one
iteration of the scheduling loop of `scheduler_start`.

The clock readings of an iteration are inputs, and so is the outcome of the
floating-point utilisation test of process creation.  A log call is modelled
by the pid it is made for.  The power management state is used by nothing
here and left out.
-/

namespace AutoMlos

/-- `SCHEDULER_MAX_PROCESSES`. -/
def schedulerMaxProcesses : Nat := 32

/-- `SCHEDULER_IDLE_PID`. -/
def schedulerIdlePid : UInt16 := 0

/-- `process_priority_t`. -/
inductive ProcessPriority where
  | critical
  | realtime
  | high
  | normal
  | background
  | count
  deriving DecidableEq, Repr

/-- The number of an enumerator; priorities are compared by it. -/
def ProcessPriority.value : ProcessPriority → Nat
  | critical => 0
  | realtime => 1
  | high => 2
  | normal => 3
  | background => 4
  | count => 5

/-- `process_state_t`. -/
inductive ProcessState where
  | created
  | ready
  | running
  | blocked
  | suspended
  | terminated
  deriving DecidableEq, Repr

/-- `rt_scheduling_params_t`. -/
structure RtSchedulingParams where
  periodMs : UInt32
  deadlineMs : UInt32
  worstCaseExecutionTimeUs : UInt32
  jitterToleranceUs : UInt32
  deriving DecidableEq, Repr

/-- `struct process_control_block`. -/
structure ProcessControlBlock where
  pid : UInt16
  state : ProcessState
  priority : ProcessPriority
  rtParams : RtSchedulingParams
  timeUsed : UInt64
  lastScheduledTime : UInt64
  deriving DecidableEq, Repr

/-- A zeroed control block. -/
def ProcessControlBlock.zero : ProcessControlBlock :=
  { pid := 0
    state := .created
    priority := .critical
    rtParams := ⟨0, 0, 0, 0⟩
    timeUsed := 0
    lastScheduledTime := 0 }

/-- `struct scheduler_state`.  The table has its declared size and the count
stays within it, so the loops over the first `process_count` entries are in
bounds. -/
structure SchedulerState where
  processTable : List ProcessControlBlock
  processCount : UInt16
  currentPid : UInt16
  schedulerTicks : UInt64
  lastTickTime : UInt64
  lastDeadlineCheck : UInt64
  table_length : processTable.length = schedulerMaxProcesses
  count_le : processCount.toNat ≤ schedulerMaxProcesses

/-- The first `process_count` entries of the table: the processes. -/
def SchedulerState.processes (s : SchedulerState) : List ProcessControlBlock :=
  s.processTable.take s.processCount.toNat

/-- `scheduler_init`, with the time it reads. -/
def schedulerInit (uptime : UInt64) : SchedulerState where
  processTable := List.replicate schedulerMaxProcesses ProcessControlBlock.zero
  processCount := 0
  currentPid := schedulerIdlePid
  schedulerTicks := 0
  lastTickTime := uptime
  lastDeadlineCheck := 0
  table_length := List.length_replicate
  count_le := Nat.zero_le _

/-! ## process creation -/

/-- `scheduler_rt_feasibility_check`.  `withinBound` is the outcome of the
comparison of the utilisation sum with the rate-monotonic bound. -/
def schedulerRtFeasibilityCheck (params : Option RtSchedulingParams) (withinBound : Bool) : Bool :=
  match params with
  | none => true
  | some params =>
      if params.periodMs = 0 ∨ params.deadlineMs = 0 ∨ params.worstCaseExecutionTimeUs = 0 then
        false
      else if params.deadlineMs > params.periodMs then false
      else if params.worstCaseExecutionTimeUs ≥ params.periodMs * 1000 then false
      else withinBound

/-- The success value of this file. -/
def schedulerOk : SystemError := systemErrorCreate errSysOk .success .none moduleIdSyscall

/-- An error of this file. -/
def schedulerError (errorCode : UInt32) : SystemError :=
  systemErrorCreate errorCode .system .high moduleIdSyscall

/-- The entry `process_create` fills in: the real-time parameters are only
written when they are given. -/
def ProcessControlBlock.recreate (pcb : ProcessControlBlock) (pid : UInt16)
    (priority : ProcessPriority) (rtParams : Option RtSchedulingParams) : ProcessControlBlock :=
  { pcb with
    pid
    state := .created
    priority
    rtParams := rtParams.getD pcb.rtParams }

/-- `process_create`.  The pid argument is what the pointer designates. -/
def processCreate (s : SchedulerState) (pid : Option UInt16) (priority : ProcessPriority)
    (rtParams : Option RtSchedulingParams) (withinBound : Bool) :
    SystemError × Option UInt16 × SchedulerState :=
  match pid with
  | none => (schedulerError errSysInvalidParam, none, s)
  | some pid =>
      if h : s.processCount.toNat ≥ schedulerMaxProcesses then
        (schedulerError errSysInvalidParam, some pid, s)
      else
        let pid := s.processCount + 1
        let s' : SchedulerState :=
          { s with
            processTable :=
              s.processTable.modify s.processCount.toNat (·.recreate pid priority rtParams)
            table_length := by rw [List.length_modify, s.table_length] }
        if rtParams.isSome ∧ schedulerRtFeasibilityCheck rtParams withinBound = false then
          (schedulerError errSysResourceUnavail, some pid, s')
        else
          (schedulerOk, some pid,
            { s' with
              processCount := s.processCount + 1
              count_le := by
                simp only [schedulerMaxProcesses] at h ⊢
                rw [UInt16.toNat_add, UInt16.toNat_one]
                omega })

/-! ## process creation with the utilisation test -/

/-- The comparison of the utilisation with the rate-monotonic bound, as a
function of what it reads: the parameters of the processes it counts, the
number of tasks, and the new parameters. -/
abbrev UtilizationTest := List RtSchedulingParams → Nat → RtSchedulingParams → Bool

/-- The parameters the utilisation sum counts: those of processes with a
period. -/
def SchedulerState.counted (s : SchedulerState) : List RtSchedulingParams :=
  (s.processes.map (·.rtParams)).filter (·.periodMs > 0)

/-- The arguments of a call of `process_create`. -/
structure CreateCall where
  pid : Option UInt16
  priority : ProcessPriority
  rtParams : Option RtSchedulingParams
  deriving DecidableEq, Repr

/-- The outcome of the utilisation test of a call. -/
def SchedulerState.withinBound (s : SchedulerState) (test : UtilizationTest) (call : CreateCall) :
    Bool :=
  match call.rtParams with
  | some params => test s.counted (s.processCount.toNat + 1) params
  | none => true

/-- `process_create` under a utilisation test: the error, the pid written, and
the state after. -/
def processCreateUnder (test : UtilizationTest) (s : SchedulerState) (call : CreateCall) :
    (SystemError × Option UInt16) × SchedulerState :=
  let (error, pid, s') :=
    processCreate s call.pid call.priority call.rtParams (s.withinBound test call)
  ((error, pid), s')

/-! ## one iteration of the scheduling loop -/

/-- The microseconds of a deadline; the product is a 32-bit one. -/
def RtSchedulingParams.deadlineUs (params : RtSchedulingParams) : UInt64 :=
  (params.deadlineMs * 1000).toUInt64

/-- `scheduler_check_deadlines`: the pids whose deadline miss is logged. -/
def schedulerCheckDeadlines (s : SchedulerState) (currentTime : UInt64) : List UInt16 :=
  (s.processes.filter fun pcb =>
    pcb.state = .running ∧ pcb.rtParams.periodMs > 0 ∧
      currentTime - pcb.lastScheduledTime > pcb.rtParams.deadlineUs).map (·.pid)

/-- `scheduler_is_deadline_met`, with the time it reads: the first process with
this pid and a period decides. -/
def schedulerIsDeadlineMet (s : SchedulerState) (pid : UInt16) (currentTime : UInt64) : Bool :=
  match s.processes.find? fun pcb => pcb.pid = pid ∧ pcb.rtParams.periodMs > 0 with
  | some pcb => currentTime - pcb.lastScheduledTime ≤ pcb.rtParams.deadlineUs
  | none => true

/-- The selection loop: the first ready process of the smallest priority
value, or the idle pid. -/
def selectNext (processes : List ProcessControlBlock) : UInt16 × ProcessPriority :=
  processes.foldl
    (fun (nextPid, highestPriority) pcb =>
      if pcb.state = .ready then
        if pcb.priority.value < highestPriority.value then (pcb.pid, pcb.priority)
        else (nextPid, highestPriority)
      else (nextPid, highestPriority))
    (schedulerIdlePid, .count)

/-- A loop over the first `n` entries that changes the first one with the
given pid and breaks. -/
def updateFirst (pid : UInt16) (f : ProcessControlBlock → ProcessControlBlock) :
    Nat → List ProcessControlBlock → List ProcessControlBlock
  | 0, table => table
  | _ + 1, [] => []
  | n + 1, pcb :: table =>
      if pcb.pid = pid then f pcb :: table else pcb :: updateFirst pid f n table

@[simp] theorem length_updateFirst (pid : UInt16)
    (f : ProcessControlBlock → ProcessControlBlock) (n : Nat) (table : List ProcessControlBlock) :
    (updateFirst pid f n table).length = table.length := by
  induction table generalizing n with
  | nil => cases n <;> rfl
  | cons pcb table ih =>
      cases n with
      | zero => rfl
      | succ n =>
          rw [updateFirst]
          split
          · rfl
          · rw [List.length_cons, ih, List.length_cons]

namespace SchedulerState

/-- Change the first process with the given pid. -/
def updateProcess (s : SchedulerState) (pid : UInt16)
    (f : ProcessControlBlock → ProcessControlBlock) : SchedulerState :=
  { s with
    processTable := updateFirst pid f s.processCount.toNat s.processTable
    table_length := by rw [length_updateFirst, s.table_length] }

/-- The context switch. -/
def dispatch (s : SchedulerState) (nextPid : UInt16) (currentTime : UInt64) : SchedulerState :=
  if nextPid ≠ s.currentPid then
    let s := { s with currentPid := nextPid }
    if s.currentPid ≠ schedulerIdlePid then
      s.updateProcess s.currentPid fun pcb =>
        { pcb with state := .running, lastScheduledTime := currentTime }
    else s
  else s

/-- The time accounting for the current process. -/
def accountTime (s : SchedulerState) (currentTime : UInt64) : SchedulerState :=
  if s.currentPid ≠ schedulerIdlePid then
    s.updateProcess s.currentPid fun pcb =>
      { pcb with timeUsed := pcb.timeUsed + (currentTime - s.lastTickTime) }
  else s

/-- One iteration of the loop of `scheduler_start`: the pids whose deadline
miss is logged, and the state after.  `currentTime` is the clock reading of
the iteration and `checkTime` that of the deadline check. -/
def iterate (s : SchedulerState) (currentTime checkTime : UInt64) : List UInt16 × SchedulerState :=
  let checked := currentTime - s.lastDeadlineCheck ≥ 1000
  let missed := if checked then schedulerCheckDeadlines s checkTime else []
  let s := if checked then { s with lastDeadlineCheck := currentTime } else s
  let nextPid := (selectNext s.processes).1
  let s := s.dispatch nextPid currentTime
  let s := s.accountTime currentTime
  (missed, { s with lastTickTime := currentTime, schedulerTicks := s.schedulerTicks + 1 })

end SchedulerState

/-! ## the timer tick -/

/-- `SCHEDULER_TIME_SLICE_US`. -/
def schedulerTimeSliceUs : UInt64 := 1000

/-- `scheduler_tick`, with the time it reads. -/
def schedulerTick (s : SchedulerState) (currentTime : UInt64) : SchedulerState :=
  let s :=
    if s.currentPid ≠ schedulerIdlePid then
      s.updateProcess s.currentPid fun pcb =>
        { pcb with timeUsed := pcb.timeUsed + schedulerTimeSliceUs }
    else s
  { s with lastTickTime := currentTime, schedulerTicks := s.schedulerTicks + 1 }

/-! ## the events of a run -/

/-- The states other kernel code moves processes to. -/
abbrev ParkedState := { state : ProcessState // state ≠ .running ∧ state ≠ .terminated }

/-- Ready to run. -/
def ParkedState.ready : ParkedState := ⟨.ready, by decide, by decide⟩

/-- What happens to the scheduler: a process is created, other kernel code
moves process number `i` to a state that is not running, or the scheduling
loop goes round once. -/
inductive SchedulerEvent where
  | create (priority : ProcessPriority) (rtParams : Option RtSchedulingParams)
      (withinBound : Bool)
  | move (i : Nat) (state : ParkedState)
  | iterate (currentTime checkTime : UInt64)

namespace SchedulerState

/-- Other kernel code sets the state of a process. -/
def move (s : SchedulerState) (i : Nat) (state : ProcessState) : SchedulerState :=
  if i < s.processCount.toNat then
    { s with
      processTable := s.processTable.modify i ({ · with state })
      table_length := by rw [List.length_modify, s.table_length] }
  else s

/-- One event; the reply is the list of pids whose deadline miss is logged. -/
def step (s : SchedulerState) : SchedulerEvent → List UInt16 × SchedulerState
  | .create priority rtParams withinBound =>
      ([], (processCreate s (some 0) priority rtParams withinBound).2.2)
  | .move i state => ([], s.move i state)
  | .iterate currentTime checkTime => s.iterate currentTime checkTime

end SchedulerState

end AutoMlos
