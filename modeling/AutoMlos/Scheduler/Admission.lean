import AutoMlos.Lib.Run
import AutoMlos.Scheduler.Iteration
import AutoMlos.Scheduler.Utilization

/-!
# AutoMlos.Scheduler.Admission

What a rejected process creation leaves behind.

`process_create` writes the real-time parameters into the free slot before it
tests whether they can be admitted.  The next creation overwrites them if it
has parameters of its own; one that has none takes over those of the rejected
call.  Leaving out the rejected calls of a run is the purge of the run library,
and it cannot be seen exactly when every creation without parameters finds a
clean slot.
-/

namespace AutoMlos

open Lib

/-- The parameters of a process that is not a real-time one. -/
def RtSchedulingParams.zero : RtSchedulingParams := ⟨0, 0, 0, 0⟩

/-- The call returned success. -/
def created (reply : SystemError × Option UInt16) : Bool := reply.1.errorCode = errSysOk

namespace SchedulerState

/-- A call without parameters finds none in the slot it would use. -/
def CleanSlot (s : SchedulerState) (call : CreateCall) : Prop :=
  call.pid ≠ none → call.rtParams = none → ∀ slot ∈ s.freeSlots.head?, slot.rtParams = .zero

/-- Two states with the same processes, the second of which has never seen a
rejected call. -/
structure Agrees (s t : SchedulerState) : Prop where
  count : t.processCount = s.processCount
  processes : t.processes = s.processes
  untimed : ∀ slot ∈ s.freeSlots, slot.timeUsed = 0 ∧ slot.lastScheduledTime = 0
  clean : ∀ slot ∈ t.freeSlots, slot = .zero

variable {test : UtilizationTest} {s t : SchedulerState} {call : CreateCall}

theorem agrees_schedulerInit (uptime : UInt64) :
    (schedulerInit uptime).Agrees (schedulerInit uptime) := by
  have hzero (slot : ProcessControlBlock) (h : slot ∈ (schedulerInit uptime).freeSlots) :
      slot = .zero :=
    List.eq_of_mem_replicate (List.mem_of_mem_drop h)
  refine ⟨rfl, rfl, fun slot h => ?_, hzero⟩
  rw [hzero slot h]
  exact ⟨rfl, rfl⟩

/-! ## one call -/

/-- A call under a utilisation test has one of the outcomes of a creation. -/
theorem processCreateUnder_spec (test : UtilizationTest) (s : SchedulerState) (call : CreateCall) :
    ∃ error pid s', processCreateUnder test s call = ((error, pid), s') ∧
      s.Creation call.pid call.priority call.rtParams (s.withinBound test call)
        (error, pid, s') :=
  ⟨_, _, _, rfl, processCreate_spec s call.pid call.priority call.rtParams
    (s.withinBound test call)⟩

/-- What an admitted call found: a pid pointer, a free slot and feasible
parameters. -/
structure Admissible (test : UtilizationTest) (s : SchedulerState) (call : CreateCall)
    (slot : ProcessControlBlock) (slots : List ProcessControlBlock) : Prop where
  pid : call.pid ≠ none
  freeSlots : s.freeSlots = slot :: slots
  feasible : schedulerRtFeasibilityCheck call.rtParams (s.withinBound test call) = true

theorem exists_admissible (h : created (processCreateUnder test s call).1 = true) :
    ∃ slot slots, Admissible test s call slot slots := by
  obtain ⟨error, pid, s', heq, hcases⟩ := processCreateUnder_spec test s call
  rw [heq] at h
  cases hcases with
  | refused => cases h
  | rejected => cases h
  | admitted hpid hslots hfeasible => exact ⟨_, _, hpid, hslots, hfeasible⟩

/-- What an admissible call does. -/
theorem Admissible.spec {slot : ProcessControlBlock} {slots : List ProcessControlBlock}
    (h : Admissible test s call slot slots) :
    (processCreateUnder test s call).1 = (schedulerOk, some (s.processCount + 1)) ∧
      (processCreateUnder test s call).2.processCount = s.processCount + 1 ∧
      (processCreateUnder test s call).2.processes =
        s.processes ++ [s.written slot call.priority call.rtParams] ∧
      (processCreateUnder test s call).2.freeSlots = slots := by
  obtain ⟨error, pid, s', heq, hcases⟩ := processCreateUnder_spec test s call
  rw [heq]
  cases hcases with
  | refused hrefused =>
      rcases hrefused with hnone | hfull
      · exact absurd hnone h.pid
      · exact absurd (hfull.symm.trans h.freeSlots) (List.cons_ne_nil slot slots).symm
  | rejected _ hinfeasible => exact absurd (h.feasible.symm.trans hinfeasible) (by decide)
  | admitted _ hslots _ _ hcount hprocesses hfree =>
      obtain ⟨rfl, rfl⟩ := List.cons.inj (hslots.symm.trans h.freeSlots)
      exact ⟨rfl, hcount, hprocesses, hfree⟩

/-- A call that is not admitted keeps the processes, and had no use for a
clean slot. -/
theorem not_created_spec (h : created (processCreateUnder test s call).1 = false) :
    s.CleanSlot call ∧ (processCreateUnder test s call).2.processes = s.processes := by
  obtain ⟨error, pid, s', heq, hcases⟩ := processCreateUnder_spec test s call
  rw [heq] at h ⊢
  cases hcases with
  | refused hrefused =>
      refine ⟨fun hpid _ slot hslot => ?_, rfl⟩
      rw [hrefused.resolve_left hpid] at hslot
      cases hslot
  | rejected _ hinfeasible _ _ hprocesses _ =>
      refine ⟨fun _ hparams => ?_, hprocesses⟩
      rw [hparams] at hinfeasible
      cases hinfeasible
  | admitted => cases h

/-! ## the run without the rejected calls -/

/-- A rejected call cannot be seen in the processes. -/
theorem Agrees.drop (h : s.Agrees t) (hreply : created (processCreateUnder test s call).1 = false) :
    (processCreateUnder test s call).2.Agrees t := by
  obtain ⟨error, pid, s', heq, hcases⟩ := processCreateUnder_spec test s call
  rw [heq] at hreply ⊢
  cases hcases with
  | refused => exact h
  | admitted => cases hreply
  | rejected hslots _ _ hcount hprocesses hfree =>
      refine ⟨h.count.trans hcount.symm, h.processes.trans hprocesses.symm, ?_, h.clean⟩
      have huntimed := h.untimed
      rw [hslots, List.forall_mem_cons] at huntimed
      rw [hfree, List.forall_mem_cons]
      exact huntimed

/-- What is admissible in one of two agreeing states is so in the other. -/
theorem Agrees.admissible {slot : ProcessControlBlock} {slots : List ProcessControlBlock}
    (h : s.Agrees t) (hcall : Admissible test s call slot slots) :
    ∃ slot' slots', Admissible test t call slot' slots' := by
  have hlength : t.freeSlots.length = s.freeSlots.length := by
    rw [length_freeSlots, length_freeSlots, h.count]
  have hroom : t.freeSlots ≠ [] := by
    rw [← List.length_pos_iff, hlength, hcall.freeSlots]
    exact Nat.zero_lt_succ _
  obtain ⟨slot', slots', hslots⟩ := List.exists_cons_of_ne_nil hroom
  have hsame : t.withinBound test call = s.withinBound test call := by
    rw [withinBound, withinBound, counted, counted, h.processes, h.count]
  exact ⟨slot', slots', hcall.pid, hslots, by rw [hsame]; exact hcall.feasible⟩

/-- What an admitted call writes into a slot that is clean or overwritten. -/
theorem written_eq {slot : ProcessControlBlock} {priority : ProcessPriority}
    {rtParams : Option RtSchedulingParams} (hcount : t.processCount = s.processCount)
    (huntimed : slot.timeUsed = 0 ∧ slot.lastScheduledTime = 0)
    (hclean : rtParams = none → slot.rtParams = .zero) :
    t.written .zero priority rtParams = s.written slot priority rtParams := by
  obtain ⟨pid, state, priority', slotParams, timeUsed, lastScheduledTime⟩ := slot
  obtain ⟨rfl, rfl⟩ := huntimed
  cases rtParams with
  | none =>
      obtain rfl : slotParams = .zero := hclean rfl
      simp only [written, hcount]
      rfl
  | some params =>
      simp only [written, hcount]
      rfl

/-- An admitted call with a clean slot is the same call in both states. -/
theorem Agrees.keep (h : s.Agrees t) (hclean : s.CleanSlot call)
    (hreply : created (processCreateUnder test s call).1 = true) :
    (processCreateUnder test t call).1 = (processCreateUnder test s call).1 ∧
      (processCreateUnder test s call).2.Agrees (processCreateUnder test t call).2 := by
  obtain ⟨slot, slots, hcall⟩ := exists_admissible hreply
  obtain ⟨slot', slots', hcall'⟩ := h.admissible hcall
  obtain ⟨hsuccess, hcount, hprocesses, hfree⟩ := hcall.spec
  obtain ⟨hsuccess', hcount', hprocesses', hfree'⟩ := hcall'.spec
  have huntimed := h.untimed
  rw [hcall.freeSlots, List.forall_mem_cons] at huntimed
  have hzero := h.clean
  rw [hcall'.freeSlots, List.forall_mem_cons] at hzero
  obtain ⟨rfl, hzeros⟩ := hzero
  have hwritten : t.written .zero call.priority call.rtParams =
      s.written slot call.priority call.rtParams :=
    written_eq h.count huntimed.1 fun hnone =>
      hclean hcall.pid hnone slot (by rw [hcall.freeSlots]; rfl)
  refine ⟨by rw [hsuccess', hsuccess, h.count], ?_, ?_, ?_, ?_⟩
  · rw [hcount', hcount, h.count]
  · rw [hprocesses', hprocesses, h.processes, hwritten]
  · rw [hfree]
    exact huntimed.2
  · rw [hfree']
    exact hzeros

/-! ## the processes of a run -/

/-- A process created without parameters has none. -/
def NoneGiven (call : CreateCall) (pcb : ProcessControlBlock) : Prop :=
  call.rtParams = none → pcb.rtParams = .zero

/-- A process created with parameters has these, and a period. -/
def Given (call : CreateCall) (pcb : ProcessControlBlock) : Prop :=
  ∀ params, call.rtParams = some params → pcb.rtParams = params ∧ params.periodMs > 0

/-- Feasible parameters have a period. -/
theorem periodMs_pos_of_feasible {params : RtSchedulingParams} {withinBound : Bool}
    (h : schedulerRtFeasibilityCheck (some params) withinBound = true) : params.periodMs > 0 := by
  have hperiod : params.periodMs ≠ 0 := by
    intro hzero
    rw [schedulerRtFeasibilityCheck, if_pos (.inl hzero)] at h
    cases h
  exact UInt32.pos_iff_ne_zero.mpr hperiod

/-- The calls of a run that are admitted. -/
abbrev admittedCalls (test : UtilizationTest) :
    SchedulerState → List CreateCall → List CreateCall :=
  purge (processCreateUnder test) created

/-- What is written without parameters has none exactly when the slot had
none. -/
theorem noneGiven_written_iff {slot : ProcessControlBlock} {slots : List ProcessControlBlock}
    (hpid : call.pid ≠ none) (hslots : s.freeSlots = slot :: slots) :
    NoneGiven call (s.written slot call.priority call.rtParams) ↔ s.CleanSlot call := by
  have hwritten (hparams : call.rtParams = none) :
      (s.written slot call.priority call.rtParams).rtParams = slot.rtParams := by
    rw [hparams]
    rfl
  unfold NoneGiven CleanSlot
  rw [hslots]
  constructor
  · rintro h _ hparams _ ⟨⟩
    rw [← hwritten hparams]
    exact h hparams
  · intro h hparams
    rw [hwritten hparams]
    exact h hpid hparams slot rfl

/-- **The processes of a run**: each admitted call appends one, which has the
parameters given, and which lacks parameters if none were given exactly when
its slot was clean. -/
theorem exists_processes (test : UtilizationTest) (s : SchedulerState) (calls : List CreateCall) :
    ∃ new, (mealy (processCreateUnder test) s calls).2.processes = s.processes ++ new ∧
      List.Forall₂ Given (admittedCalls test s calls) new ∧
      (List.Forall₂ NoneGiven (admittedCalls test s calls) new ↔
        Always (total (processCreateUnder test)) (fun s call _ _ => s.CleanSlot call) s calls) := by
  induction calls generalizing s with
  | nil => exact ⟨[], (List.append_nil _).symm, .nil, by simp [purge]⟩
  | cons call calls ih =>
      obtain ⟨new, hnew, hgiven, hnone⟩ := ih (processCreateUnder test s call).2
      rw [mealy_cons, always_total_cons, hnew]
      cases hreply : created (processCreateUnder test s call).1 with
      | false =>
          obtain ⟨hclean, hprocesses⟩ := not_created_spec hreply
          rw [admittedCalls, purge_cons_of_drop hreply, hprocesses]
          exact ⟨new, rfl, hgiven, hnone.trans (and_iff_right hclean).symm⟩
      | true =>
          obtain ⟨slot, slots, hcall⟩ := exists_admissible hreply
          rw [admittedCalls, purge_cons_of_keep hreply, hcall.spec.2.2.1]
          refine ⟨_ :: new, List.append_assoc _ _ _, .cons ?_ hgiven, ?_⟩
          · intro params hparams
            have hfeasible := hcall.feasible
            rw [hparams] at hfeasible ⊢
            exact ⟨rfl, periodMs_pos_of_feasible hfeasible⟩
          · rw [List.forall₂_cons, hnone]
            exact and_congr_left fun _ => noneGiven_written_iff hcall.pid hcall.freeSlots

/-! ## processes that are not real-time ones -/

/-- What the kernel changes of processes: states and times, but neither pids
nor parameters. -/
def SameTasks (s s' : SchedulerState) : Prop :=
  s'.processes.map (fun pcb => (pcb.pid, pcb.rtParams)) =
    s.processes.map fun pcb => (pcb.pid, pcb.rtParams)

/-- The process is never treated as a real-time one: whatever becomes of the
states and times, no deadline miss is logged for it and its deadline is met. -/
def NeverRealTime (s : SchedulerState) (pcb : ProcessControlBlock) : Prop :=
  ∀ s' currentTime, s.SameTasks s' →
    pcb.pid ∉ schedulerCheckDeadlines s' currentTime ∧
      schedulerIsDeadlineMet s' pcb.pid currentTime = true

/-- A process without a period is not treated as a real-time one. -/
theorem Numbered.neverRealTime (h : s.Numbered) {pcb : ProcessControlBlock}
    (hmem : pcb ∈ s.processes) (hzero : pcb.rtParams = .zero) : s.NeverRealTime pcb := by
  intro s' currentTime hsame
  have hperiod (q : ProcessControlBlock) (hq : q ∈ s'.processes) (hpid : q.pid = pcb.pid) :
      ¬ q.rtParams.periodMs > 0 := by
    have hpair : (q.pid, q.rtParams) ∈ s.processes.map fun p => (p.pid, p.rtParams) := by
      rw [← hsame]
      exact List.mem_map_of_mem hq
    obtain ⟨p, hp, heq⟩ := List.mem_map.mp hpair
    obtain ⟨hpid', hparams⟩ := Prod.mk.inj heq
    obtain rfl : p = pcb := h.eq_of_pid_eq hp hmem (hpid'.trans hpid)
    rw [← hparams, hzero]
    decide
  constructor
  · intro hlogged
    obtain ⟨q, hq, hpid⟩ := List.mem_map.mp hlogged
    obtain ⟨hqmem, hmissed⟩ := List.mem_filter.mp hq
    exact hperiod q hqmem hpid (of_decide_eq_true hmissed).2.1
  · have hnone :
        s'.processes.find? (fun q => q.pid = pcb.pid ∧ q.rtParams.periodMs > 0) = none := by
      rw [List.find?_eq_none]
      intro q hq hfound
      obtain ⟨hpid, hpos⟩ := of_decide_eq_true hfound
      exact hperiod q hq hpid hpos
    rw [schedulerIsDeadlineMet, hnone]

/-- A run of creations keeps the numbering. -/
theorem Numbered.mealy (test : UtilizationTest) {s : SchedulerState} (h : s.Numbered)
    (calls : List CreateCall) : (Lib.mealy (processCreateUnder test) s calls).2.Numbered := by
  have hstep (s : SchedulerState) (call : CreateCall) (h : s.Numbered) :
      (processCreateUnder test s call).2.Numbered := by
    obtain ⟨_ | pid, priority, rtParams⟩ := call
    · exact h
    · exact h.processCreate pid priority rtParams _
  exact mealy_invariant hstep h calls

/-- Without a period parameters are not counted; with one they are. -/
theorem counted_eq {calls : List CreateCall} {new : List ProcessControlBlock}
    (hgiven : List.Forall₂ Given calls new) (hnone : List.Forall₂ NoneGiven calls new) :
    (new.map (·.rtParams)).filter (·.periodMs > 0) = calls.filterMap (·.rtParams) := by
  induction hgiven with
  | nil => rfl
  | @cons call pcb calls new hcall _ ih =>
      rw [List.forall₂_cons] at hnone
      rw [List.map_cons]
      cases hparams : call.rtParams with
      | none =>
          rw [List.filterMap_cons_none hparams, ← ih hnone.2, hnone.1 hparams]
          rfl
      | some params =>
          obtain ⟨hsame, hpos⟩ := hcall params hparams
          have hcounted : decide (params.periodMs > 0) = true := decide_eq_true hpos
          rw [List.filterMap_cons_some hparams, ← ih hnone.2, hsame]
          simp only [List.filter_cons, hcounted, if_true]

end SchedulerState

/-! ## leaving out the rejected calls -/

open SchedulerState

/-- **Rejected process creation has no effect** on a run: leaving out the
calls that returned an error changes neither the results of the others nor the
processes, and processes created without parameters have none, are not counted
and not treated as real-time ones. -/
structure RejectedHasNoEffect (test : UtilizationTest) (start : SchedulerState)
    (calls : List CreateCall) : Prop where
  results : (mealy (processCreateUnder test) start (admittedCalls test start calls)).1 =
    (mealy (processCreateUnder test) start calls).1.filter created
  processes : (mealy (processCreateUnder test) start (admittedCalls test start calls)).2.processes =
    (mealy (processCreateUnder test) start calls).2.processes
  noneGiven : List.Forall₂ NoneGiven (admittedCalls test start calls)
    (mealy (processCreateUnder test) start calls).2.processes
  counted : (mealy (processCreateUnder test) start calls).2.counted =
    (admittedCalls test start calls).filterMap (·.rtParams)
  neverRealTime : List.Forall₂
    (fun call pcb => call.rtParams = none →
      (mealy (processCreateUnder test) start calls).2.NeverRealTime pcb)
    (admittedCalls test start calls) (mealy (processCreateUnder test) start calls).2.processes

/-- **Rejected process creation has no effect on a run exactly when every
creation without parameters finds a clean slot**, for every utilisation
test. -/
theorem rejected_creation_no_effect_iff (test : UtilizationTest) (uptime : UInt64)
    (calls : List CreateCall) :
    RejectedHasNoEffect test (schedulerInit uptime) calls ↔
      Always (total (processCreateUnder test)) (fun s call _ _ => s.CleanSlot call)
        (schedulerInit uptime) calls := by
  obtain ⟨new, hnew, hgiven, hnone⟩ := exists_processes test (schedulerInit uptime) calls
  have hempty : (schedulerInit uptime).processes = [] := rfl
  rw [hempty, List.nil_append] at hnew
  constructor
  · intro h
    have hzero := h.noneGiven
    rw [hnew] at hzero
    exact hnone.mp hzero
  · intro hclean
    have hzero := hnone.mpr hclean
    have hdrop (s t : SchedulerState) (call : CreateCall) (h : s.Agrees t)
        (hreply : created (processCreateUnder test s call).1 = false) :
        (processCreateUnder test s call).2.Agrees t := h.drop hreply
    have hkeep (s t : SchedulerState) (call : CreateCall) (h : s.Agrees t)
        (hslot : s.CleanSlot call) (hreply : created (processCreateUnder test s call).1 = true) :
        (processCreateUnder test t call).1 = (processCreateUnder test s call).1 ∧
          (processCreateUnder test s call).2.Agrees (processCreateUnder test t call).2 :=
      h.keep hslot hreply
    obtain ⟨hresults, hagrees⟩ := mealy_purge hdrop hkeep (agrees_schedulerInit uptime) hclean
    refine ⟨hresults, hagrees.processes, ?_, ?_, ?_⟩
    · rwa [hnew]
    · rw [SchedulerState.counted, hnew]
      exact counted_eq hgiven hzero
    · have hnumbered := (numbered_schedulerInit uptime).mealy test calls
      rw [hnew]
      refine forall₂_imp_of_mem hzero fun call pcb hmem hcall hparams => ?_
      rw [← hnew] at hmem
      exact hnumbered.neverRealTime hmem (hcall hparams)

/-- A call whose execution time is twice its period, and one without
parameters. -/
def leakingCalls : List CreateCall :=
  [⟨some 0, .normal, some ⟨10, 10, 20000, 0⟩⟩, ⟨some 0, .normal, none⟩]

/-- The parameters of the rejected call become those of the next process. -/
theorem rejected_creation_has_effect :
    ¬ RejectedHasNoEffect exactUtilizationTest (schedulerInit 0) leakingCalls := by
  intro h
  exact absurd h.processes (by decide)

end AutoMlos
