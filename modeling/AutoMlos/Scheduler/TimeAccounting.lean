import AutoMlos.Lib.Accounts
import AutoMlos.Lib.Run
import AutoMlos.Scheduler.Iteration

/-!
# AutoMlos.Scheduler.TimeAccounting

To whom the scheduling loop charges processor time.

An iteration reads the clock, switches, and then charges the time since the
last reading to the process that is current after the switch
(`accounts_iterate`).  The time was spent by the process that was current
before, so the account of a process is what it ran (`TimedScheduler.ran`) as
long as no time lies between an iteration that switches and the reading
before it.  The total charged never exceeds the time elapsed.
-/

namespace AutoMlos

open Lib

/-! ## accounts -/

namespace SchedulerState

/-- The pid and the time used of every process. -/
def accounts (s : SchedulerState) : List (UInt16 × UInt64) :=
  s.processes.map fun p => (p.pid, p.timeUsed)

variable {s : SchedulerState}

theorem map_fst_accounts (s : SchedulerState) :
    s.accounts.map Prod.fst = s.processes.map (·.pid) := by
  rw [accounts, List.map_map]
  rfl

theorem Numbered.nodup_accounts (h : s.Numbered) : (s.accounts.map Prod.fst).Nodup := by
  rw [map_fst_accounts]
  exact h.nodup_pids

theorem Numbered.fst_ne_idle (h : s.Numbered) {a : UInt16 × UInt64} (ha : a ∈ s.accounts) :
    a.1 ≠ schedulerIdlePid := by
  obtain ⟨p, hp, rfl⟩ := List.mem_map.mp ha
  exact h.pid_ne_idle hp

/-- No account is that of the idle pid. -/
theorem Numbered.idle_not_mem (h : s.Numbered) :
    schedulerIdlePid ∉ s.accounts.map Prod.fst := by
  intro hmem
  obtain ⟨a, ha, heq⟩ := List.mem_map.mp hmem
  exact h.fst_ne_idle ha heq

/-- The switch changes no account. -/
theorem accounts_dispatch (h : s.Numbered) (next : UInt16) (t : UInt64) :
    (s.dispatch next t).accounts = s.accounts := by
  rw [accounts, processes_dispatch h, List.map_map, accounts]
  apply List.map_congr_left
  intro p _
  simp only [Function.comp_apply]
  split <;> rfl

/-- The accounting charges the current process with the time since the last
reading. -/
theorem accounts_accountTime (h : s.Numbered) (t : UInt64) :
    (s.accountTime t).accounts = charge s.currentPid (t - s.lastTickTime) s.accounts := by
  unfold accountTime
  split
  · rw [accounts, h.processes_updateProcess, List.map_map, charge, accounts, List.map_map]
    apply List.map_congr_left
    intro p _
    simp only [Function.comp_apply]
    split <;> rfl
  · next hidle =>
    have hcurrent : s.currentPid = schedulerIdlePid := not_not.mp hidle
    rw [charge_of_not_mem (hcurrent ▸ h.idle_not_mem)]

theorem Numbered.dispatch (h : s.Numbered) (next : UInt16) (t : UInt64) :
    (s.dispatch next t).Numbered := by
  refine h.of_map_pid (processCount_dispatch _ _ _) ?_
  rw [← map_fst_accounts, accounts_dispatch h, map_fst_accounts]

/-- **An iteration charges the process it makes current** with the time since
the last reading. -/
theorem accounts_iterate (h : s.Numbered) (t checkTime : UInt64) :
    (s.iterate t checkTime).2.accounts = charge s.nextPid (t - s.lastTickTime) s.accounts := by
  obtain ⟨check, ticks, heq⟩ := s.iterate_eq t checkTime
  have hcheck : { s with lastDeadlineCheck := check }.Numbered := h
  have haccounts : (s.iterate t checkTime).2.accounts =
      (({ s with lastDeadlineCheck := check }.dispatch s.nextPid t).accountTime t).accounts := by
    rw [heq]
    rfl
  rw [haccounts, accounts_accountTime (hcheck.dispatch _ _), accounts_dispatch hcheck,
    currentPid_dispatch, lastTickTime_dispatch]
  rfl

/-- Other kernel code changes no account. -/
theorem accounts_move (s : SchedulerState) (i : Nat) (state : ProcessState) :
    (s.move i state).accounts = s.accounts := by
  rw [accounts, processes_move]
  exact map_modify_of_eq ({ · with state }) (fun p => (p.pid, p.timeUsed)) (fun _ => rfl) i
    s.processes

/-! ## the slots that are no processes yet -/

/-- No free slot has used time. -/
def FreshSlots (s : SchedulerState) : Prop := ∀ slot ∈ s.freeSlots, slot.timeUsed = 0

theorem drop_updateFirst (pid : UInt16) (f : ProcessControlBlock → ProcessControlBlock) (n : Nat)
    (table : List ProcessControlBlock) : (updateFirst pid f n table).drop n = table.drop n := by
  induction table generalizing n with
  | nil => cases n <;> rfl
  | cons pcb table ih =>
      cases n with
      | zero => rfl
      | succ n =>
          rw [updateFirst]
          split
          · rfl
          · exact ih n

@[simp] theorem freeSlots_updateProcess (s : SchedulerState) (pid : UInt16)
    (f : ProcessControlBlock → ProcessControlBlock) :
    (s.updateProcess pid f).freeSlots = s.freeSlots :=
  drop_updateFirst pid f _ _

@[simp] theorem freeSlots_dispatch (s : SchedulerState) (next : UInt16) (t : UInt64) :
    (s.dispatch next t).freeSlots = s.freeSlots := by
  unfold dispatch
  split
  · dsimp only
    split
    · exact freeSlots_updateProcess _ _ _
    · rfl
  · rfl

@[simp] theorem freeSlots_accountTime (s : SchedulerState) (t : UInt64) :
    (s.accountTime t).freeSlots = s.freeSlots := by
  unfold accountTime
  split
  · exact freeSlots_updateProcess _ _ _
  · rfl

theorem freeSlots_iterate (s : SchedulerState) (t checkTime : UInt64) :
    (s.iterate t checkTime).2.freeSlots = s.freeSlots := by
  obtain ⟨check, ticks, heq⟩ := s.iterate_eq t checkTime
  have hslots : (s.iterate t checkTime).2.freeSlots =
      (({ s with lastDeadlineCheck := check }.dispatch s.nextPid t).accountTime t).freeSlots := by
    rw [heq]
    rfl
  rw [hslots, freeSlots_accountTime, freeSlots_dispatch]
  rfl

theorem freeSlots_move (s : SchedulerState) (i : Nat) (state : ProcessState) :
    (s.move i state).freeSlots = s.freeSlots := by
  unfold move
  split
  · next hi => exact List.drop_modify_of_lt _ _ _ _ hi
  · rfl

/-- **Process creation** opens at most one account, the next one, with nothing
in it. -/
theorem accounts_processCreate {s : SchedulerState} (h : s.FreshSlots) (pid : UInt16)
    (priority : ProcessPriority) (rtParams : Option RtSchedulingParams) (withinBound : Bool) :
    let s' := (processCreate s (some pid) priority rtParams withinBound).2.2
    s'.FreshSlots ∧
      (s'.accounts = s.accounts ∨ s'.accounts = s.accounts ++ [(s.processCount + 1, 0)]) := by
  have hcases := processCreate_spec s (some pid) priority rtParams withinBound
  generalize processCreate s (some pid) priority rtParams withinBound = result at hcases ⊢
  cases hcases with
  | refused => exact ⟨h, .inl rfl⟩
  | rejected hslots _ _ _ hprocesses hfree =>
      rw [FreshSlots, hslots, List.forall_mem_cons] at h
      refine ⟨?_, .inl (by rw [accounts, hprocesses, accounts])⟩
      rw [FreshSlots, hfree, List.forall_mem_cons]
      exact h
  | admitted _ hslots _ _ _ hprocesses hfree =>
      rw [FreshSlots, hslots, List.forall_mem_cons] at h
      refine ⟨?_, .inr ?_⟩
      · rw [FreshSlots, hfree]
        exact h.2
      · rw [accounts, hprocesses, List.map_append, accounts, List.map_singleton]
        exact congrArg (fun used => _ ++ [(s.processCount + 1, used)]) h.1

theorem lastTickTime_move (s : SchedulerState) (i : Nat) (state : ProcessState) :
    (s.move i state).lastTickTime = s.lastTickTime := by
  unfold move
  split <;> rfl

theorem lastTickTime_processCreate (s : SchedulerState) (pid : UInt16) (priority : ProcessPriority)
    (rtParams : Option RtSchedulingParams) (withinBound : Bool) :
    (processCreate s (some pid) priority rtParams withinBound).2.2.lastTickTime =
      s.lastTickTime := by
  simp only [processCreate]
  split
  · rfl
  · split <;> rfl

/-! ## who keeps the processor -/

/-- An iteration keeps the current process, or idling: it leads, or none does
and the scheduler idles. -/
def KeepsProcessor (s : SchedulerState) : Prop :=
  (∃ p, Leads s.processes p ∧ p.pid = s.currentPid) ∨
    NoneLeads s.processes ∧ s.currentPid = schedulerIdlePid

theorem nextPid_eq_currentPid_iff (h : s.Numbered) :
    s.nextPid = s.currentPid ↔ s.KeepsProcessor := by
  rcases selectNext_cases h.pairwise_lt with ⟨hnone, hidle⟩ | ⟨p, hp, hnext⟩
  · rw [nextPid, hidle]
    constructor
    · exact fun hcur => .inr ⟨hnone, hcur.symm⟩
    · rintro (⟨q, hq, -⟩ | ⟨-, hcur⟩)
      · exact absurd (hnone q hq.mem hq.ready) (Nat.not_le_of_lt hq.valid)
      · exact hcur.symm
  · rw [nextPid, hnext]
    constructor
    · exact fun hcur => .inl ⟨p, hp, hcur⟩
    · rintro (⟨q, hq, hcur⟩ | ⟨hnone, -⟩)
      · rw [← hcur]
        exact hp.pid_eq hq
      · exact absurd (hnone p hp.mem hp.ready) (Nat.not_le_of_lt hp.valid)

/-- The selected pid is the idle one or that of a process. -/
theorem nextPid_mem (h : s.Numbered) :
    s.nextPid = schedulerIdlePid ∨ s.nextPid ∈ s.accounts.map Prod.fst := by
  rcases selectNext_cases h.pairwise_lt with ⟨-, hidle⟩ | ⟨p, hp, hnext⟩
  · exact .inl hidle
  · refine .inr ?_
    rw [nextPid, hnext, map_fst_accounts]
    exact List.mem_map_of_mem hp.mem

end SchedulerState

/-! ## what the processes ran -/

/-- The scheduler, and for each pid the time between two readings of the loop
during which it was the current one. -/
structure TimedScheduler where
  scheduler : SchedulerState
  ran : UInt16 → Nat

namespace TimedScheduler

/-- The time since the last reading, when an event reads the clock. -/
def interval (s : SchedulerState) : SchedulerEvent → Nat
  | .iterate currentTime _ => currentTime.toNat - s.lastTickTime.toNat
  | _ => 0

/-- One event.  The interval it ends was run by the process that is current
before it. -/
def step (t : TimedScheduler) (event : SchedulerEvent) : List UInt16 × TimedScheduler :=
  let (missed, scheduler) := t.scheduler.step event
  let ran pid :=
    t.ran pid + if pid = t.scheduler.currentPid then interval t.scheduler event else 0
  (missed, { scheduler, ran })

/-- `scheduler_init`: nothing has run. -/
def init (uptime : UInt64) : TimedScheduler := ⟨schedulerInit uptime, fun _ => 0⟩

/-- Every process is charged what it ran. -/
def Exact (t : TimedScheduler) : Prop :=
  ∀ p ∈ t.scheduler.processes, p.timeUsed.toNat = t.ran p.pid

instance (t : TimedScheduler) : Decidable t.Exact :=
  inferInstanceAs (Decidable (∀ p ∈ _, _))

/-- The processes are charged no more than the time elapsed since `uptime`. -/
def Covered (uptime : UInt64) (t : TimedScheduler) : Prop :=
  (t.scheduler.processes.map (·.timeUsed.toNat)).sum ≤
    t.scheduler.lastTickTime.toNat - uptime.toNat

/-- An event does not read the clock behind the last reading. -/
def ClockForward (t : TimedScheduler) : SchedulerEvent → Prop
  | .iterate currentTime _ => t.scheduler.lastTickTime ≤ currentTime
  | _ => True

/-- An iteration that takes the processor from its current process reads the
same time as the one before it. -/
def SwitchesAtOnce (t : TimedScheduler) : SchedulerEvent → Prop
  | .iterate currentTime _ =>
      t.scheduler.KeepsProcessor ∨ currentTime = t.scheduler.lastTickTime
  | _ => True

/-! ## what every event keeps -/

/-- **What the accounting maintains**, whoever is charged. -/
structure Accounted (uptime : UInt64) (t : TimedScheduler) : Prop where
  numbered : t.scheduler.Numbered
  slots : t.scheduler.FreshSlots
  current : t.scheduler.currentPid = schedulerIdlePid ∨
    t.scheduler.currentPid ∈ t.scheduler.accounts.map Prod.fst
  started : uptime ≤ t.scheduler.lastTickTime
  covered : balance t.scheduler.accounts ≤ t.scheduler.lastTickTime.toNat - uptime.toNat
  unborn : ∀ pid, pid ≠ schedulerIdlePid → pid ∉ t.scheduler.accounts.map Prod.fst → t.ran pid = 0

theorem exact_iff (t : TimedScheduler) :
    t.Exact ↔ ∀ a ∈ t.scheduler.accounts, a.2.toNat = t.ran a.1 := by
  rw [SchedulerState.accounts, List.forall_mem_map]
  rfl

theorem covered_iff (uptime : UInt64) (t : TimedScheduler) :
    t.Covered uptime ↔
      balance t.scheduler.accounts ≤ t.scheduler.lastTickTime.toNat - uptime.toNat := by
  rw [balance, SchedulerState.accounts, List.map_map]
  rfl

theorem accounted_init (uptime : UInt64) : (init uptime).Accounted uptime where
  numbered := rfl
  slots := by
    intro slot hslot
    rw [List.eq_of_mem_replicate (List.mem_of_mem_drop hslot)]
    rfl
  current := .inl rfl
  started := UInt64.le_refl _
  covered := Nat.zero_le _
  unborn _ _ _ := rfl

theorem exact_init (uptime : UInt64) : (init uptime).Exact := by
  intro p hp
  simp [init, SchedulerState.processes, schedulerInit] at hp

variable {uptime : UInt64} {t : TimedScheduler}

/-- The pid of a process that is not there is not the current one. -/
theorem Accounted.ne_currentPid (h : t.Accounted uptime) {pid : UInt16}
    (hidle : pid ≠ schedulerIdlePid) (hnew : pid ∉ t.scheduler.accounts.map Prod.fst) :
    pid ≠ t.scheduler.currentPid := by
  rintro rfl
  exact h.current.elim hidle hnew

/-- The interval an iteration charges, as a number. -/
theorem toNat_interval {now : UInt64} (checkTime : UInt64)
    (hclock : t.scheduler.lastTickTime ≤ now) :
    (now - t.scheduler.lastTickTime).toNat = interval t.scheduler (.iterate now checkTime) :=
  UInt64.toNat_sub_of_le _ _ hclock

/-- No counter wraps when it is charged. -/
theorem Accounted.charge_lt (h : t.Accounted uptime) {now : UInt64}
    (hclock : t.scheduler.lastTickTime ≤ now) {a : UInt16 × UInt64}
    (ha : a ∈ t.scheduler.accounts) :
    a.2.toNat + (now - t.scheduler.lastTickTime).toNat < 2 ^ 64 := by
  have hle : t.scheduler.lastTickTime.toNat ≤ now.toNat := UInt64.le_iff_toNat_le.mp hclock
  have hheld : a.2.toNat ≤ balance t.scheduler.accounts := toNat_le_balance ha
  have hcovered := h.covered
  have hnow : now.toNat < 2 ^ 64 := now.toNat_lt
  rw [UInt64.toNat_sub_of_le _ _ hclock]
  omega

theorem Accounted.iterate (h : t.Accounted uptime) {now : UInt64} (checkTime : UInt64)
    (hclock : t.scheduler.lastTickTime ≤ now) :
    (t.step (.iterate now checkTime)).2.Accounted uptime := by
  have haccounts : (t.step (.iterate now checkTime)).2.scheduler.accounts = _ :=
    SchedulerState.accounts_iterate h.numbered now checkTime
  have hpids : (t.step (.iterate now checkTime)).2.scheduler.accounts.map Prod.fst =
      t.scheduler.accounts.map Prod.fst := by
    rw [haccounts, map_fst_charge]
  refine ⟨h.numbered.iterate now checkTime, ?_, ?_, UInt64.le_trans h.started hclock, ?_, ?_⟩
  · intro slot hslot
    rw [step, SchedulerState.step, SchedulerState.freeSlots_iterate] at hslot
    exact h.slots slot hslot
  · have hcurrent : (t.step (.iterate now checkTime)).2.scheduler.currentPid = _ :=
      t.scheduler.currentPid_iterate now checkTime
    rw [hpids, hcurrent]
    exact SchedulerState.nextPid_mem h.numbered
  · have hle : t.scheduler.lastTickTime.toNat ≤ now.toNat := UInt64.le_iff_toNat_le.mp hclock
    have hstarted : uptime.toNat ≤ t.scheduler.lastTickTime.toNat :=
      UInt64.le_iff_toNat_le.mp h.started
    have hcharged := balance_charge_le h.numbered.nodup_accounts t.scheduler.nextPid
      (now - t.scheduler.lastTickTime)
    rw [UInt64.toNat_sub_of_le _ _ hclock] at hcharged
    have hcovered := h.covered
    have hlast : (t.step (.iterate now checkTime)).2.scheduler.lastTickTime = now := rfl
    rw [haccounts, hlast]
    omega
  · intro pid hidle hnew
    rw [hpids] at hnew
    have hran : (t.step (.iterate now checkTime)).2.ran pid = t.ran pid + _ := rfl
    rw [hran, if_neg (h.ne_currentPid hidle hnew), h.unborn pid hidle hnew]

/-- An event that does not read the clock and at most opens empty accounts
keeps everything. -/
theorem Accounted.opens (h : t.Accounted uptime) {t' : TimedScheduler}
    (opened : List (UInt16 × UInt64)) (hnumbered : t'.scheduler.Numbered)
    (hslots : t'.scheduler.FreshSlots)
    (hcurrent : t'.scheduler.currentPid = t.scheduler.currentPid)
    (hlast : t'.scheduler.lastTickTime = t.scheduler.lastTickTime) (hran : t'.ran = t.ran)
    (haccounts : t'.scheduler.accounts = t.scheduler.accounts ++ opened)
    (hopened : ∀ a ∈ opened, a.2 = 0) :
    t'.Accounted uptime ∧ (t.Exact → t'.Exact) := by
  have hempty : balance opened = 0 := by
    rw [balance, List.sum_eq_zero]
    intro n hn
    obtain ⟨a, ha, rfl⟩ := List.mem_map.mp hn
    rw [hopened a ha]
    rfl
  refine ⟨⟨hnumbered, hslots, ?_, ?_, ?_, ?_⟩, ?_⟩
  · rw [hcurrent, haccounts, List.map_append]
    exact h.current.imp_right (List.mem_append_left _)
  · rw [hlast]
    exact h.started
  · rw [hlast, haccounts, balance_append, hempty]
    exact h.covered
  · intro pid hidle hnew
    rw [haccounts, List.map_append, List.mem_append, not_or] at hnew
    rw [hran]
    exact h.unborn pid hidle hnew.1
  · intro hexact
    rw [exact_iff] at hexact ⊢
    have hnodup := hnumbered.nodup_accounts
    rw [haccounts, List.map_append, List.nodup_append] at hnodup
    rw [hran, haccounts, List.forall_mem_append]
    refine ⟨hexact, fun a ha => ?_⟩
    have hidle : a.1 ≠ schedulerIdlePid := by
      refine hnumbered.fst_ne_idle ?_
      rw [haccounts]
      exact List.mem_append_right _ ha
    have hnew : a.1 ∉ t.scheduler.accounts.map Prod.fst :=
      fun hold => hnodup.2.2 _ hold _ (List.mem_map_of_mem ha) rfl
    rw [hopened a ha, h.unborn a.1 hidle hnew]
    rfl

/-- An event that does not read the clock runs nothing. -/
theorem ran_step {event : SchedulerEvent} (hevent : interval t.scheduler event = 0) :
    (t.step event).2.ran = t.ran := by
  funext pid
  have hran : (t.step event).2.ran pid =
    t.ran pid + if pid = t.scheduler.currentPid then interval t.scheduler event else 0 := rfl
  rw [hran, hevent, ite_self, Nat.add_zero]

theorem Accounted.move (h : t.Accounted uptime) (i : Nat) (state : ParkedState) :
    (t.step (.move i state)).2.Accounted uptime ∧
      (t.Exact → (t.step (.move i state)).2.Exact) := by
  refine h.opens [] (h.numbered.move i state) ?_
    (SchedulerState.currentPid_move _ i state) (SchedulerState.lastTickTime_move _ i state)
    (ran_step rfl) ?_ (by simp)
  · intro slot hslot
    rw [step, SchedulerState.step, SchedulerState.freeSlots_move] at hslot
    exact h.slots slot hslot
  · rw [List.append_nil]
    exact SchedulerState.accounts_move _ i state

theorem Accounted.create (h : t.Accounted uptime) (priority : ProcessPriority)
    (rtParams : Option RtSchedulingParams) (withinBound : Bool) :
    (t.step (.create priority rtParams withinBound)).2.Accounted uptime ∧
      (t.Exact → (t.step (.create priority rtParams withinBound)).2.Exact) := by
  have hnumbered := h.numbered.processCreate 0 priority rtParams withinBound
  have hcurrent :=
    (SchedulerState.processCreate_cases t.scheduler 0 priority rtParams withinBound).1
  have hlast :=
    SchedulerState.lastTickTime_processCreate t.scheduler 0 priority rtParams withinBound
  have hran : (t.step (.create priority rtParams withinBound)).2.ran = t.ran := ran_step rfl
  obtain ⟨hslots, haccounts | haccounts⟩ :=
    SchedulerState.accounts_processCreate h.slots 0 priority rtParams withinBound
  · refine h.opens [] hnumbered hslots hcurrent hlast hran ?_ (by simp)
    rw [List.append_nil]
    exact haccounts
  · exact h.opens _ hnumbered hslots hcurrent hlast hran haccounts (by simp)

/-- **Every event** keeps what the accounting maintains. -/
theorem Accounted.step (h : t.Accounted uptime) {event : SchedulerEvent}
    (hclock : t.ClockForward event) : (t.step event).2.Accounted uptime := by
  cases event with
  | create priority rtParams withinBound => exact (h.create priority rtParams withinBound).1
  | move i state => exact (h.move i state).1
  | iterate now checkTime => exact h.iterate checkTime hclock

/-! ## who is charged -/

/-- Charging `next` for what `current` ran is right exactly if they are the
same or nothing was run. -/
theorem charged_eq_ran_iff {keys : List UInt16} {next current idle : UInt16} {d : Nat}
    (hidle : idle ∉ keys) (hnext : next = idle ∨ next ∈ keys)
    (hcurrent : current = idle ∨ current ∈ keys) :
    (∀ k ∈ keys, (if k = next then d else 0) = if k = current then d else 0) ↔
      next = current ∨ d = 0 := by
  constructor
  · intro h
    rcases hnext with rfl | hnext
    · rcases hcurrent with rfl | hcurrent
      · exact .inl rfl
      · have hcharged := h current hcurrent
        have hne : current ≠ next := fun heq => hidle (heq ▸ hcurrent)
        rw [if_neg hne, if_pos rfl] at hcharged
        exact .inr hcharged.symm
    · by_cases hsame : next = current
      · exact .inl hsame
      · have hcharged := h next hnext
        rw [if_pos rfl, if_neg hsame] at hcharged
        exact .inr hcharged
  · rintro (rfl | rfl) k -
    · rfl
    · rw [ite_self, ite_self]

/-- **One iteration**: the accounts stay exact if and only if it switches at
once. -/
theorem Accounted.exact_iterate_iff (h : t.Accounted uptime) (hexact : t.Exact) {now : UInt64}
    (checkTime : UInt64) (hclock : t.scheduler.lastTickTime ≤ now) :
    (t.step (.iterate now checkTime)).2.Exact ↔ t.SwitchesAtOnce (.iterate now checkTime) := by
  have haccounts : (t.step (.iterate now checkTime)).2.scheduler.accounts = _ :=
    SchedulerState.accounts_iterate h.numbered now checkTime
  have hzero : interval t.scheduler (.iterate now checkTime) = 0 ↔
      now = t.scheduler.lastTickTime := by
    have hle : t.scheduler.lastTickTime.toNat ≤ now.toNat := UInt64.le_iff_toNat_le.mp hclock
    rw [interval, ← UInt64.toNat_inj]
    omega
  rw [SwitchesAtOnce, ← SchedulerState.nextPid_eq_currentPid_iff h.numbered, ← hzero,
    ← charged_eq_ran_iff h.numbered.idle_not_mem (SchedulerState.nextPid_mem h.numbered) h.current,
    exact_iff, haccounts, charge, List.forall_mem_map, List.forall_mem_map]
  refine forall₂_congr fun a ha => ?_
  have hheld : a.2.toNat = t.ran a.1 := (exact_iff t).mp hexact a ha
  have hran : (t.step (.iterate now checkTime)).2.ran a.1 = t.ran a.1 + _ := rfl
  rw [toNat_charged (h.charge_lt hclock ha), toNat_interval checkTime hclock, hran, hheld]
  exact Nat.add_left_cancel_iff

/-- One event: exact accounts stay exact if and only if it switches at once. -/
theorem Accounted.exact_step_iff (h : t.Accounted uptime) (hexact : t.Exact)
    {event : SchedulerEvent} (hclock : t.ClockForward event) :
    (t.step event).2.Exact ↔ t.SwitchesAtOnce event := by
  cases event with
  | create priority rtParams withinBound =>
      exact iff_of_true ((h.create priority rtParams withinBound).2 hexact) trivial
  | move i state => exact iff_of_true ((h.move i state).2 hexact) trivial
  | iterate now checkTime => exact h.exact_iterate_iff hexact checkTime hclock

end TimedScheduler

/-! ## whole runs -/

open TimedScheduler

/-- **The charges never exceed the time elapsed** since `scheduler_init`. -/
theorem time_charged_le_elapsed (uptime : UInt64) (events : List SchedulerEvent)
    (hclock : Always (total TimedScheduler.step) (fun t event _ _ => t.ClockForward event)
      (.init uptime) events) :
    Always (total TimedScheduler.step) (fun _ _ _ t' => t'.Covered uptime) (.init uptime)
      events := by
  have hstep (t : TimedScheduler) (event : SchedulerEvent) (reply : List UInt16)
      (t' : TimedScheduler) (h : t.Accounted uptime)
      (heq : total TimedScheduler.step t event = .ok (reply, t'))
      (hforward : t.ClockForward event) :
      t'.Covered uptime ∧ t'.Accounted uptime := by
    cases heq
    have hnext := h.step hforward
    exact ⟨(covered_iff uptime _).mpr hnext.covered, hnext⟩
  exact (always_and_iff.mp (always_and_of_invariant hstep (accounted_init uptime) hclock)).2

/-- **Processor time is charged to the process that used it** if and only if
every iteration that takes the processor from its current process does so at
the time of the reading before it. -/
theorem cpu_time_charged_iff (uptime : UInt64) (events : List SchedulerEvent)
    (hclock : Always (total TimedScheduler.step) (fun t event _ _ => t.ClockForward event)
      (.init uptime) events) :
    Always (total TimedScheduler.step) (fun _ _ _ t' => t'.Exact ∧ t'.Covered uptime)
        (.init uptime) events ↔
      Always (total TimedScheduler.step) (fun t event _ _ => t.SwitchesAtOnce event)
        (.init uptime) events := by
  have hstep (t : TimedScheduler) (event : SchedulerEvent)
      (h : t.Accounted uptime ∧ t.Exact) :
      ∃ reply t', total TimedScheduler.step t event = .ok (reply, t') ∧
        (t.ClockForward event ∧ t'.Exact ↔ t.ClockForward event ∧ t.SwitchesAtOnce event) ∧
        (t.ClockForward event ∧ t'.Exact → t'.Accounted uptime ∧ t'.Exact) := by
    refine ⟨_, _, rfl, and_congr_right fun hforward => h.1.exact_step_iff h.2 hforward, ?_⟩
    exact fun hboth => ⟨h.1.step hboth.1, hboth.2⟩
  have hruns := always_iff_always hstep ⟨accounted_init uptime, exact_init uptime⟩ events
  rw [always_and_iff, always_and_iff, and_congr_right_iff] at hruns
  rw [always_and_iff, hruns hclock]
  exact and_iff_left (time_charged_le_elapsed uptime events hclock)

/-- A process that is made ready and run: the time before it was dispatched. -/
def firstDispatch : List SchedulerEvent :=
  [.create .normal none true, .move 0 ParkedState.ready, .iterate 1000 1000]

/-- The first process is charged with the time the scheduler idled before. -/
theorem cpu_time_not_always_charged :
    Always (total TimedScheduler.step) (fun t event _ _ => t.ClockForward event) (.init 0)
        firstDispatch ∧
      ¬ Always (total TimedScheduler.step) (fun _ _ _ t' => t'.Exact ∧ t'.Covered 0) (.init 0)
        firstDispatch := by
  refine ⟨⟨_, _, rfl, trivial, _, _, rfl, trivial, _, _, rfl, ?_, trivial⟩, fun h => ?_⟩
  · exact UInt64.zero_le
  · simp only [firstDispatch, always_total_cons] at h
    have hlast := h.2.2.1.1
    revert hlast
    decide

/-- The same run with a dispatch at the time of `scheduler_init`. -/
theorem cpu_time_charged_iff_firstDispatch :
    Always (total TimedScheduler.step) (fun _ _ _ t' => t'.Exact ∧ t'.Covered 1000) (.init 1000)
        firstDispatch ↔
      Always (total TimedScheduler.step) (fun t event _ _ => t.SwitchesAtOnce event) (.init 1000)
        firstDispatch :=
  cpu_time_charged_iff 1000 firstDispatch
    ⟨_, _, rfl, trivial, _, _, rfl, trivial, _, _, rfl, UInt64.le_refl 1000, trivial⟩

end AutoMlos
