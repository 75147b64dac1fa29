import AutoMlos.Scheduler.Creation
import Mathlib.Data.List.Induction
import Mathlib.Data.List.Nodup

/-!
# AutoMlos.Scheduler.Iteration

What one event of the scheduler does.

Processes are numbered from 1 in table order (`Numbered`), so a pid names at
most one process and the idle pid names none.  Under this invariant the
selection loop finds the leading process (`selectNext_cases`), and an
iteration makes it the current one and changes the state of no process but
that one (`processes_iterate`).
-/

namespace AutoMlos

/-! ## numbering -/

/-- The processes have the pids 1, 2, … in table order. -/
def SchedulerState.Numbered (s : SchedulerState) : Prop :=
  s.processes.map (fun p => p.pid.toNat) = List.range' 1 s.processCount.toNat

namespace SchedulerState.Numbered

variable {s : SchedulerState} {p q : ProcessControlBlock}

theorem pairwise_lt (h : s.Numbered) : s.processes.Pairwise fun p q => p.pid < q.pid := by
  have hlt : (List.range' 1 s.processCount.toNat).Pairwise (· < ·) := List.pairwise_lt_range'
  rw [← h, List.pairwise_map] at hlt
  exact hlt.imp UInt16.lt_iff_toNat_lt.mpr

/-- No two processes have the same pid. -/
theorem nodup_pids (h : s.Numbered) : (s.processes.map (·.pid)).Nodup :=
  List.pairwise_map.mpr (h.pairwise_lt.imp fun hlt => UInt16.ne_of_lt hlt)

theorem pid_ne_idle (h : s.Numbered) (hp : p ∈ s.processes) : p.pid ≠ schedulerIdlePid := by
  intro hidle
  have hmem : p.pid.toNat ∈ List.range' 1 s.processCount.toNat := by
    rw [← h]
    exact List.mem_map_of_mem hp
  rw [hidle, List.mem_range'_1] at hmem
  exact absurd hmem.1 (by decide)

theorem eq_of_pid_eq (h : s.Numbered) (hp : p ∈ s.processes) (hq : q ∈ s.processes)
    (hpid : p.pid = q.pid) : p = q :=
  List.inj_on_of_nodup_map h.nodup_pids hp hq hpid

/-- Numbering depends on the pids and their number only. -/
theorem of_map_pid {s' : SchedulerState} (h : s.Numbered)
    (hcount : s'.processCount = s.processCount)
    (hpids : s'.processes.map (·.pid) = s.processes.map (·.pid)) : s'.Numbered := by
  have htoNat (l : List ProcessControlBlock) :
      l.map (fun p => p.pid.toNat) = (l.map (·.pid)).map UInt16.toNat := by
    rw [List.map_map]
    rfl
  rw [Numbered, htoNat, hpids, hcount, ← htoNat]
  exact h

end SchedulerState.Numbered

/-! ## changing one process -/

/-- With different pids the loop with `break` changes every entry with the
given pid: there is at most one. -/
theorem take_updateFirst (pid : UInt16) (f : ProcessControlBlock → ProcessControlBlock) (n : Nat)
    (table : List ProcessControlBlock) (h : (table.take n).Pairwise fun p q => p.pid < q.pid) :
    (updateFirst pid f n table).take n =
      (table.take n).map fun p => if p.pid = pid then f p else p := by
  induction table generalizing n with
  | nil => cases n <;> rfl
  | cons pcb table ih =>
      cases n with
      | zero => rfl
      | succ n =>
          rw [List.take_succ_cons, List.pairwise_cons] at h
          rw [updateFirst]
          by_cases hpid : pcb.pid = pid
          · have hrest : (table.take n).map (fun p => if p.pid = pid then f p else p) =
                table.take n := by
              rw [List.map_congr_left fun p hp => if_neg fun heq => ?_, List.map_id']
              exact UInt16.ne_of_lt (h.1 p hp) (hpid.trans heq.symm)
            rw [if_pos hpid, List.take_succ_cons, List.take_succ_cons, List.map_cons, if_pos hpid,
              hrest]
          · rw [if_neg hpid, List.take_succ_cons, List.take_succ_cons, List.map_cons, if_neg hpid,
              ih n h.2]

theorem SchedulerState.Numbered.processes_updateProcess {s : SchedulerState} (h : s.Numbered)
    (pid : UInt16) (f : ProcessControlBlock → ProcessControlBlock) :
    (s.updateProcess pid f).processes = s.processes.map fun p => if p.pid = pid then f p else p :=
  take_updateFirst pid f _ _ h.pairwise_lt

/-! ## selection -/

/-- The process is ready, its priority is a proper one, and it precedes every
other ready process: smaller priority value first, then smaller pid. -/
structure Leads (processes : List ProcessControlBlock) (p : ProcessControlBlock) : Prop where
  mem : p ∈ processes
  ready : p.state = .ready
  valid : p.priority.value < ProcessPriority.count.value
  first : ∀ q ∈ processes, q.state = .ready →
    p.priority.value < q.priority.value ∨ p.priority.value = q.priority.value ∧ p.pid ≤ q.pid

/-- No ready process has a proper priority. -/
def NoneLeads (processes : List ProcessControlBlock) : Prop :=
  ∀ q ∈ processes, q.state = .ready → ProcessPriority.count.value ≤ q.priority.value

theorem Leads.pid_eq {processes : List ProcessControlBlock} {p q : ProcessControlBlock}
    (hp : Leads processes p) (hq : Leads processes q) : p.pid = q.pid := by
  have hpq := hp.first q hq.mem hq.ready
  have hqp := hq.first p hp.mem hp.ready
  apply UInt16.le_antisymm
  · rcases hpq with hlt | ⟨-, hle⟩
    · omega
    · exact hle
  · rcases hqp with hlt | ⟨-, hle⟩
    · omega
    · exact hle

theorem selectNext_append (processes : List ProcessControlBlock) (pcb : ProcessControlBlock) :
    selectNext (processes ++ [pcb]) =
      if pcb.state = .ready ∧ pcb.priority.value < (selectNext processes).2.value then
        (pcb.pid, pcb.priority)
      else selectNext processes := by
  rw [selectNext, List.foldl_append]
  change (if pcb.state = .ready then
    if pcb.priority.value < (selectNext processes).2.value then (pcb.pid, pcb.priority)
      else selectNext processes
    else selectNext processes) = _
  by_cases hready : pcb.state = .ready <;> simp [hready]

section Append

variable {processes : List ProcessControlBlock} {p pcb : ProcessControlBlock}

/-- A leader still leads with an entry added that does not precede it. -/
theorem Leads.append (hp : Leads processes p)
    (hlast : pcb.state = .ready → p.priority.value < pcb.priority.value ∨
      p.priority.value = pcb.priority.value ∧ p.pid ≤ pcb.pid) :
    Leads (processes ++ [pcb]) p :=
  ⟨List.mem_append_left _ hp.mem, hp.ready, hp.valid,
    List.forall_mem_append.mpr ⟨hp.first, List.forall_mem_singleton.mpr hlast⟩⟩

/-- An added ready entry leads when its priority is below all others. -/
theorem leads_append_self (hready : pcb.state = .ready)
    (hvalid : pcb.priority.value < ProcessPriority.count.value)
    (hlower : ∀ q ∈ processes, q.state = .ready → pcb.priority.value < q.priority.value) :
    Leads (processes ++ [pcb]) pcb := by
  refine ⟨by simp, hready, hvalid, List.forall_mem_append.mpr ⟨?_, ?_⟩⟩
  · exact fun q hq hqready => Or.inl (hlower q hq hqready)
  · exact List.forall_mem_singleton.mpr fun _ => Or.inr ⟨rfl, UInt16.le_refl _⟩

theorem NoneLeads.append (h : NoneLeads processes)
    (hlast : pcb.state = .ready → ProcessPriority.count.value ≤ pcb.priority.value) :
    NoneLeads (processes ++ [pcb]) :=
  List.forall_mem_append.mpr ⟨h, List.forall_mem_singleton.mpr hlast⟩

end Append

/-- The selection loop after any prefix of the table: nothing found yet, or
the leading process of the prefix. -/
theorem selectNext_cases_aux (processes : List ProcessControlBlock)
    (h : processes.Pairwise fun p q => p.pid < q.pid) :
    (NoneLeads processes ∧ selectNext processes = (schedulerIdlePid, .count)) ∨
      ∃ p, Leads processes p ∧ selectNext processes = (p.pid, p.priority) := by
  induction processes using List.reverseRecOn with
  | nil => exact Or.inl ⟨by simp [NoneLeads], rfl⟩
  | append_singleton processes pcb ih =>
      rw [List.pairwise_append] at h
      obtain ⟨hinit, -, hlast⟩ := h
      rw [selectNext_append]
      rcases ih hinit with ⟨hnone, heq⟩ | ⟨p, hp, heq⟩
      · rw [heq]
        by_cases hfound : pcb.state = .ready ∧ pcb.priority.value < ProcessPriority.count.value
        · rw [if_pos hfound]
          refine Or.inr ⟨pcb, leads_append_self hfound.1 hfound.2 fun q hq hqready => ?_, rfl⟩
          exact Nat.lt_of_lt_of_le hfound.2 (hnone q hq hqready)
        · rw [if_neg hfound]
          exact Or.inl ⟨hnone.append fun hready => Nat.le_of_not_lt fun hlt =>
            hfound ⟨hready, hlt⟩, rfl⟩
      · rw [heq]
        by_cases hbetter : pcb.state = .ready ∧ pcb.priority.value < p.priority.value
        · rw [if_pos hbetter]
          have hvalid := Nat.lt_trans hbetter.2 hp.valid
          refine Or.inr ⟨pcb, leads_append_self hbetter.1 hvalid fun q hq hqready => ?_, rfl⟩
          have hpq := hp.first q hq hqready
          omega
        · -- ties keep the earlier process
          rw [if_neg hbetter]
          refine Or.inr ⟨p, hp.append fun hready => ?_, rfl⟩
          have hpid := UInt16.le_of_lt (hlast p hp.mem pcb List.mem_cons_self)
          have hle : p.priority.value ≤ pcb.priority.value :=
            Nat.le_of_not_lt fun hlt => hbetter ⟨hready, hlt⟩
          exact (Nat.lt_or_eq_of_le hle).imp_right fun heq => ⟨heq, hpid⟩

/-- **The selection loop** returns the idle pid when no ready process has a
proper priority, and the pid of the leading process otherwise. -/
theorem selectNext_cases {processes : List ProcessControlBlock}
    (h : processes.Pairwise fun p q => p.pid < q.pid) :
    (NoneLeads processes ∧ (selectNext processes).1 = schedulerIdlePid) ∨
      ∃ p, Leads processes p ∧ (selectNext processes).1 = p.pid := by
  rcases selectNext_cases_aux processes h with ⟨hnone, heq⟩ | ⟨p, hp, heq⟩
  · exact Or.inl ⟨hnone, by rw [heq]⟩
  · exact Or.inr ⟨p, hp, by rw [heq]⟩

/-! ## one iteration -/

/-- The state an iteration leaves a process in: the selected process starts
to run if it was not the current one. -/
def stateAfter (currentPid nextPid : UInt16) (p : ProcessControlBlock) : ProcessState :=
  if p.pid = nextPid ∧ nextPid ≠ currentPid then .running else p.state

/-- What an iteration keeps of a process, and the state it leaves it in. -/
structure IteratesTo (currentPid nextPid : UInt16) (p p' : ProcessControlBlock) : Prop where
  pid : p'.pid = p.pid
  priority : p'.priority = p.priority
  state : p'.state = stateAfter currentPid nextPid p

namespace SchedulerState

variable {s : SchedulerState} {next : UInt16} {t : UInt64}

theorem dispatch_of_eq (h : next = s.currentPid) : s.dispatch next t = s :=
  if_neg (not_not.mpr h)

theorem dispatch_of_ne (h : next ≠ s.currentPid) :
    s.dispatch next t =
      if next ≠ schedulerIdlePid then
        { s with currentPid := next }.updateProcess next fun pcb =>
          { pcb with state := .running, lastScheduledTime := t }
      else { s with currentPid := next } :=
  if_pos h

@[simp] theorem currentPid_dispatch (s : SchedulerState) (next : UInt16) (t : UInt64) :
    (s.dispatch next t).currentPid = next := by
  by_cases h : next = s.currentPid
  · rw [dispatch_of_eq h, h]
  · rw [dispatch_of_ne h]
    split <;> rfl

@[simp] theorem processCount_dispatch (s : SchedulerState) (next : UInt16) (t : UInt64) :
    (s.dispatch next t).processCount = s.processCount := by
  by_cases h : next = s.currentPid
  · rw [dispatch_of_eq h]
  · rw [dispatch_of_ne h]
    split <;> rfl

@[simp] theorem lastTickTime_dispatch (s : SchedulerState) (next : UInt16) (t : UInt64) :
    (s.dispatch next t).lastTickTime = s.lastTickTime := by
  by_cases h : next = s.currentPid
  · rw [dispatch_of_eq h]
  · rw [dispatch_of_ne h]
    split <;> rfl

/-- The switch changes the selected process only. -/
theorem processes_dispatch (h : s.Numbered) (next : UInt16) (t : UInt64) :
    (s.dispatch next t).processes = s.processes.map fun p =>
      if p.pid = next ∧ next ≠ s.currentPid then
        { p with state := .running, lastScheduledTime := t }
      else p := by
  by_cases hcur : next = s.currentPid
  · simp [hcur, dispatch_of_eq]
  · have hnext : { s with currentPid := next }.Numbered := h
    rw [dispatch_of_ne hcur]
    by_cases hidle : next = schedulerIdlePid
    · have hnone : ∀ p ∈ s.processes, ¬ (p.pid = next ∧ next ≠ s.currentPid) :=
        fun p hp heq => h.pid_ne_idle hp (heq.1.trans hidle)
      rw [if_neg (not_not.mpr hidle), List.map_congr_left fun p hp => if_neg (hnone p hp),
        List.map_id']
      rfl
    · rw [if_pos hidle, hnext.processes_updateProcess]
      simp only [hcur, ne_eq, not_false_eq_true, and_true]
      rfl

@[simp] theorem currentPid_accountTime (s : SchedulerState) (t : UInt64) :
    (s.accountTime t).currentPid = s.currentPid := by
  unfold accountTime
  split <;> rfl

@[simp] theorem processCount_accountTime (s : SchedulerState) (t : UInt64) :
    (s.accountTime t).processCount = s.processCount := by
  unfold accountTime
  split <;> rfl

/-- The accounting changes the times used only. -/
theorem processes_accountTime (h : s.Numbered) (t : UInt64) :
    ∃ used : ProcessControlBlock → UInt64,
      (s.accountTime t).processes = s.processes.map fun p => { p with timeUsed := used p } := by
  unfold accountTime
  split
  · refine ⟨fun p => if p.pid = s.currentPid then p.timeUsed + (t - s.lastTickTime)
      else p.timeUsed, ?_⟩
    rw [h.processes_updateProcess]
    apply List.map_congr_left
    intro p _
    by_cases hpid : p.pid = s.currentPid <;> simp [hpid]
  · exact ⟨(·.timeUsed), (List.map_id' _).symm⟩

/-- The pid an iteration selects. -/
def nextPid (s : SchedulerState) : UInt16 := (selectNext s.processes).1

/-- An iteration selects a process exactly when it leads. -/
theorem nextPid_eq_iff (h : s.Numbered) {p : ProcessControlBlock} (hp : p ∈ s.processes) :
    s.nextPid = p.pid ↔ Leads s.processes p := by
  rcases selectNext_cases h.pairwise_lt with ⟨hnone, hidle⟩ | ⟨q, hq, hnext⟩
  · refine iff_of_false ?_ fun hlead => ?_
    · rw [nextPid, hidle]
      exact (h.pid_ne_idle hp).symm
    · have hle := hnone p hp hlead.ready
      have hlt := hlead.valid
      omega
  · rw [nextPid, hnext]
    constructor
    · intro hpid
      rwa [← h.eq_of_pid_eq hq.mem hp hpid]
    · exact hq.pid_eq

/-- An iteration is a switch and the accounting, up to the time stamps. -/
theorem iterate_eq (s : SchedulerState) (t checkTime : UInt64) :
    ∃ (lastDeadlineCheck ticks : UInt64), (s.iterate t checkTime).2 =
      { ({ s with lastDeadlineCheck }.dispatch s.nextPid t).accountTime t with
        lastTickTime := t
        schedulerTicks := ticks } := by
  unfold iterate
  by_cases hcheck : t - s.lastDeadlineCheck ≥ 1000
  · simp only [if_pos hcheck]
    exact ⟨t, _, rfl⟩
  · simp only [if_neg hcheck]
    exact ⟨s.lastDeadlineCheck, _, rfl⟩

/-- **An iteration makes the selected pid the current one.** -/
theorem currentPid_iterate (s : SchedulerState) (t checkTime : UInt64) :
    (s.iterate t checkTime).2.currentPid = s.nextPid := by
  obtain ⟨check, ticks, heq⟩ := s.iterate_eq t checkTime
  rw [heq]
  simp only [currentPid_accountTime, currentPid_dispatch]

theorem processCount_iterate (s : SchedulerState) (t checkTime : UInt64) :
    (s.iterate t checkTime).2.processCount = s.processCount := by
  obtain ⟨check, ticks, heq⟩ := s.iterate_eq t checkTime
  rw [heq]
  simp only [processCount_accountTime, processCount_dispatch]

/-- **An iteration changes the state of the selected process only**, and the
pid and priority of none. -/
theorem processes_iterate (h : s.Numbered) (t checkTime : UInt64) :
    ∃ g, (s.iterate t checkTime).2.processes = s.processes.map g ∧
      ∀ p, IteratesTo s.currentPid s.nextPid p (g p) := by
  obtain ⟨check, ticks, heq⟩ := s.iterate_eq t checkTime
  have hcheck : { s with lastDeadlineCheck := check }.Numbered := h
  have hdispatch := processes_dispatch hcheck s.nextPid t
  have hnumbered : ({ s with lastDeadlineCheck := check }.dispatch s.nextPid t).Numbered := by
    refine hcheck.of_map_pid (processCount_dispatch _ _ _) ?_
    rw [hdispatch, List.map_map]
    apply List.map_congr_left
    intro p _
    simp only [Function.comp_apply]
    split <;> rfl
  obtain ⟨used, haccount⟩ := processes_accountTime hnumbered t
  have hprocesses : (s.iterate t checkTime).2.processes =
      (({ s with lastDeadlineCheck := check }.dispatch s.nextPid t).accountTime t).processes := by
    rw [heq]
    rfl
  rw [hprocesses, haccount, hdispatch, List.map_map]
  refine ⟨_, rfl, fun p => ?_⟩
  simp only [Function.comp_apply]
  constructor
  · split <;> rfl
  · split <;> rfl
  · rw [stateAfter]
    split <;> rfl

/-! ## the numbering is kept -/

/-- Modifying an entry keeps what the modification keeps. -/
theorem map_modify_of_eq {α β : Type} (f : α → α) (g : α → β) (h : ∀ a, g (f a) = g a) (i : Nat)
    (l : List α) : (l.modify i f).map g = l.map g := by
  induction l generalizing i with
  | nil => simp
  | cons a l ih =>
      cases i with
      | zero => simp [h]
      | succ i => simp [ih]

theorem mem_modify {α : Type} {f : α → α} {i : Nat} {l : List α} {b : α} (h : b ∈ l.modify i f) :
    b ∈ l ∨ ∃ a ∈ l, b = f a := by
  induction l generalizing i with
  | nil => simp at h
  | cons a l ih =>
      cases i with
      | zero =>
          rw [List.modify_zero_cons, List.mem_cons] at h
          rcases h with rfl | h
          · exact Or.inr ⟨a, List.mem_cons_self, rfl⟩
          · exact Or.inl (List.mem_cons_of_mem a h)
      | succ i =>
          rw [List.modify_succ_cons, List.mem_cons] at h
          rcases h with rfl | h
          · exact Or.inl List.mem_cons_self
          · rcases ih h with h | ⟨c, hc, rfl⟩
            · exact Or.inl (List.mem_cons_of_mem a h)
            · exact Or.inr ⟨c, List.mem_cons_of_mem a hc, rfl⟩

theorem numbered_schedulerInit (uptime : UInt64) : (schedulerInit uptime).Numbered := rfl

theorem Numbered.iterate (h : s.Numbered) (t checkTime : UInt64) :
    (s.iterate t checkTime).2.Numbered := by
  obtain ⟨g, hprocesses, hg⟩ := processes_iterate h t checkTime
  refine h.of_map_pid (processCount_iterate s t checkTime) ?_
  rw [hprocesses, List.map_map]
  exact List.map_congr_left fun p _ => (hg p).pid

theorem processes_move (s : SchedulerState) (i : Nat) (state : ProcessState) :
    (s.move i state).processes = s.processes.modify i ({ · with state }) := by
  unfold move
  split
  · exact List.take_modify _ _ _ _
  · rename_i hi
    have hlen : s.processes.length ≤ i :=
      Nat.le_trans (List.length_take_le _ _) (Nat.le_of_not_lt hi)
    rw [List.modify_eq_self hlen]

theorem currentPid_move (s : SchedulerState) (i : Nat) (state : ProcessState) :
    (s.move i state).currentPid = s.currentPid := by
  unfold move
  split <;> rfl

theorem processCount_move (s : SchedulerState) (i : Nat) (state : ProcessState) :
    (s.move i state).processCount = s.processCount := by
  unfold move
  split <;> rfl

theorem map_pid_move (s : SchedulerState) (i : Nat) (state : ProcessState) :
    (s.move i state).processes.map (·.pid) = s.processes.map (·.pid) := by
  rw [processes_move]
  exact map_modify_of_eq ({ · with state }) (·.pid) (fun _ => rfl) i s.processes

theorem Numbered.move (h : s.Numbered) (i : Nat) (state : ProcessState) :
    (s.move i state).Numbered :=
  h.of_map_pid (processCount_move s i state) (map_pid_move s i state)

/-- **Process creation** leaves the processes alone or appends one that is
created and has the next pid; the current pid stays. -/
theorem processCreate_cases (s : SchedulerState) (pid : UInt16) (priority : ProcessPriority)
    (rtParams : Option RtSchedulingParams) (withinBound : Bool) :
    let s' := (processCreate s (some pid) priority rtParams withinBound).2.2
    s'.currentPid = s.currentPid ∧
      (s'.processCount = s.processCount ∧ s'.processes = s.processes ∨
        ∃ p, s'.processCount.toNat = s.processCount.toNat + 1 ∧ s'.processes = s.processes ++ [p] ∧
          p.pid.toNat = s.processCount.toNat + 1 ∧ p.state = .created) := by
  have hcases := processCreate_spec s (some pid) priority rtParams withinBound
  generalize processCreate s (some pid) priority rtParams withinBound = result at hcases ⊢
  cases hcases with
  | refused => exact ⟨rfl, Or.inl ⟨rfl, rfl⟩⟩
  | rejected _ _ hcurrent hcount hprocesses _ => exact ⟨hcurrent, Or.inl ⟨hcount, hprocesses⟩⟩
  | admitted _ hslots _ hcurrent hcount hprocesses _ =>
      have hroom : s.freeSlots ≠ [] := by simp [hslots]
      have hsucc := toNat_processCount_succ hroom
      exact ⟨hcurrent, Or.inr ⟨_, by rw [hcount, hsucc], hprocesses, hsucc, rfl⟩⟩

theorem Numbered.processCreate (h : s.Numbered) (pid : UInt16) (priority : ProcessPriority)
    (rtParams : Option RtSchedulingParams) (withinBound : Bool) :
    (processCreate s (some pid) priority rtParams withinBound).2.2.Numbered := by
  obtain ⟨-, ⟨hcount, hprocesses⟩ | ⟨p, hcount, hprocesses, hpid, -⟩⟩ :=
    processCreate_cases s pid priority rtParams withinBound
  · refine h.of_map_pid hcount ?_
    rw [hprocesses]
  · rw [Numbered, hprocesses, hcount, List.map_append, h, List.range'_concat, List.map_cons,
      List.map_nil, hpid, Nat.one_mul, Nat.add_comm 1]

/-- **Every event keeps the numbering.** -/
theorem Numbered.step (h : s.Numbered) (event : SchedulerEvent) : (s.step event).2.Numbered := by
  cases event with
  | create priority rtParams withinBound => exact h.processCreate 0 priority rtParams withinBound
  | move i state => exact h.move i state
  | iterate currentTime checkTime => exact h.iterate currentTime checkTime

end SchedulerState

end AutoMlos
