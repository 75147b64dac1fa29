import AutoMlos.Lib.Run
import AutoMlos.Scheduler

/-!
# AutoMlos.Kernel.MainLoop

The main loop of the kernel (`kernel_main`, `kernel/core/kernel.c`) around the
scheduling loop (`scheduler_start`, `kernel/core/scheduler.c`).

`kernel_main` pets the watchdogs when half a second has passed and then calls
`scheduler_start`, whose loop has no way out once the scheduler is
initialised.  So a run pets at its first round at most, and the watchdogs are
petted in time as long as the run is over before the next pet is due.

A round of either loop takes its clock readings as input; those of the delay
at the end of a pass are used by nothing else and left out.
-/

namespace AutoMlos

open Lib

/-- `kernel_watchdog_level_t`. -/
inductive KernelWatchdogLevel where
  | scheduler
  | memory
  | ipc
  | syscall
  deriving DecidableEq, Repr

/-- The calls of the pet block: `kernel_watchdog_pet` and
`kernel_log_watchdog_pet`. -/
inductive PetCall where
  | pet (level : KernelWatchdogLevel)
  | logPet (level : KernelWatchdogLevel)
  deriving DecidableEq, Repr

/-- The block of `kernel_main` that pets the kernel component watchdogs. -/
def petBlock : List PetCall :=
  [.pet .scheduler, .logPet .scheduler, .pet .memory, .logPet .memory, .pet .ipc, .logPet .ipc]

/-- Whose loop control is in. -/
inductive Control where
  | kernelMain
  | schedulerStart
  deriving DecidableEq, Repr

/-- The scheduler with its `rt_initialized`, the local `last_watchdog_pet` of
`kernel_main`, and where control is: at the start of a round of a loop. -/
structure KernelMain where
  scheduler : SchedulerState
  rtInitialized : Bool
  lastWatchdogPet : UInt64
  control : Control

/-- The clock readings of one round: the one it starts with, and that of a
deadline check. -/
structure RoundReadings where
  currentTime : UInt64
  checkTime : UInt64
  deriving DecidableEq, Repr

/-- What a round does: `kernel_main` checks whether to pet, or the scheduler
makes a pass and logs the deadline misses of these pids. -/
inductive KernelRound where
  | check (time : UInt64) (calls : List PetCall)
  | pass (time : UInt64) (missed : List UInt16)
  deriving DecidableEq, Repr

namespace KernelMain

/-- `kernel_main` before its loop, with the time it reads. -/
def init (scheduler : SchedulerState) (rtInitialized : Bool) (started : UInt64) : KernelMain where
  scheduler
  rtInitialized
  lastWatchdogPet := started
  control := .kernelMain

/-- One round of the loop control is in.  A round of `kernel_main` ends with
the call of `scheduler_start`, which returns at once if the scheduler is not
initialised. -/
def step (k : KernelMain) (r : RoundReadings) : KernelRound × KernelMain :=
  match k.control with
  | .kernelMain =>
      let due := r.currentTime - k.lastWatchdogPet ≥ 500000
      let calls := if due then petBlock else []
      let lastWatchdogPet := if due then r.currentTime else k.lastWatchdogPet
      let control := if k.rtInitialized then .schedulerStart else .kernelMain
      (.check r.currentTime calls, { k with lastWatchdogPet, control })
  | .schedulerStart =>
      let (missed, scheduler) := k.scheduler.iterate r.currentTime r.checkTime
      (.pass r.currentTime missed, { k with scheduler })

end KernelMain

/-! ## petting in time -/

/-- At the start of every pass, less than half a second and the pass before it
have gone by since the pet block was executed.  `pet` is the time of the last
pet or of the start of `kernel_main`, and `previous` that of the round before:
a pass takes until the next one starts. -/
def PettedInTime : UInt64 → UInt64 → List KernelRound → Prop
  | _, _, [] => True
  | pet, _, .check time calls :: rounds =>
      PettedInTime (if calls = petBlock then time else pet) time rounds
  | pet, previous, .pass time _ :: rounds =>
      time.toNat - pet.toNat < 500000 + (time.toNat - previous.toNat) ∧
        PettedInTime pet time rounds

instance decidablePettedInTime :
    ∀ pet previous rounds, Decidable (PettedInTime pet previous rounds)
  | _, _, [] => instDecidableTrue
  | pet, _, .check time calls :: rounds =>
      decidablePettedInTime (if calls = petBlock then time else pet) time rounds
  | pet, _, .pass time _ :: rounds =>
      have := decidablePettedInTime pet time rounds
      inferInstanceAs (Decidable (_ ∧ _))

/-- The time `kernel_main` pets at in its first round, or else started at. -/
def firstPet (started check : UInt64) : UInt64 :=
  if check - started ≥ 500000 then check else started

/-- All passes but the last start less than half a second after `kernel_main`
pets in its first round, or else started. -/
def PassesEarly (started : UInt64) : List RoundReadings → Prop
  | [] => True
  | check :: passes => ∀ pass ∈ passes.dropLast,
      pass.currentTime.toNat - (firstPet started check.currentTime).toNat < 500000

/-! ## the scheduling loop -/

section Scheduler

variable {k : KernelMain}

/-- **The scheduling loop never gives control back.** -/
theorem step_of_schedulerStart (h : k.control = .schedulerStart) (r : RoundReadings) :
    ∃ missed, (k.step r).1 = .pass r.currentTime missed ∧
      (k.step r).2.control = .schedulerStart := by
  rw [KernelMain.step, h]
  exact ⟨_, rfl, rfl⟩

/-- In it, the watchdogs have been petted in time if each round but the last
one started within half a second of the pet. -/
theorem pettedInTime_passes (h : k.control = .schedulerStart) {pet previous : UInt64}
    (hpet : pet ≤ previous) {passes : List RoundReadings}
    (hclock : (previous :: passes.map (·.currentTime)).Pairwise (· ≤ ·)) :
    PettedInTime pet previous (mealy KernelMain.step k passes).1 ↔
      ∀ time ∈ (previous :: passes.map (·.currentTime)).dropLast,
        time.toNat - pet.toNat < 500000 := by
  induction passes generalizing k previous with
  | nil => simp [mealy, PettedInTime]
  | cons r passes ih =>
      obtain ⟨missed, hpass, hstays⟩ := step_of_schedulerStart h r
      rw [List.map_cons, List.pairwise_cons] at hclock
      obtain ⟨hnext, hrest⟩ := hclock
      have hle : previous ≤ r.currentTime := hnext _ List.mem_cons_self
      have hpet' : pet.toNat ≤ previous.toNat := UInt64.le_iff_toNat_le.mp hpet
      have hle' : previous.toNat ≤ r.currentTime.toNat := UInt64.le_iff_toNat_le.mp hle
      have hstart : r.currentTime.toNat - pet.toNat <
          500000 + (r.currentTime.toNat - previous.toNat) ↔
          previous.toNat - pet.toNat < 500000 := by
        omega
      rw [mealy_cons, hpass, PettedInTime, ih hstays (UInt64.le_trans hpet hle) hrest,
        List.map_cons, List.dropLast_cons_cons, List.forall_mem_cons, hstart]

end Scheduler

/-! ## the first round -/

/-- The pet block is executed when its time has come. -/
theorem calls_eq_petBlock_iff (due : Prop) [Decidable due] :
    (if due then petBlock else []) = petBlock ↔ due := by
  by_cases h : due
  · simp [h]
  · simp [h, petBlock]

/-- After a round of `kernel_main` the pet is at most half a second old. -/
theorem firstPet_spec {started check : UInt64} (h : started ≤ check) :
    firstPet started check ≤ check ∧ check.toNat - (firstPet started check).toNat < 500000 := by
  have hdue : (500000 : UInt64).toNat = 500000 := rfl
  unfold firstPet
  split
  · exact ⟨UInt64.le_refl _, by omega⟩
  · next hnot =>
    rw [ge_iff_le, UInt64.le_iff_toNat_le, UInt64.toNat_sub_of_le _ _ h, hdue] at hnot
    exact ⟨h, Nat.lt_of_not_le hnot⟩

/-- Without a scheduler that is initialised no pass is ever made. -/
theorem pettedInTime_checks {k : KernelMain} (h : k.control = .kernelMain)
    (hrt : k.rtInitialized = false) (pet previous : UInt64) (readings : List RoundReadings) :
    PettedInTime pet previous (mealy KernelMain.step k readings).1 := by
  induction readings generalizing k pet previous with
  | nil => trivial
  | cons r readings ih =>
      have hround : ∃ calls, (k.step r).1 = .check r.currentTime calls ∧
          (k.step r).2.control = .kernelMain ∧ (k.step r).2.rtInitialized = false := by
        rw [KernelMain.step, h]
        exact ⟨_, rfl, by rw [hrt]; rfl, hrt⟩
      obtain ⟨calls, hcheck, hcontrol, hrt'⟩ := hround
      rw [mealy_cons, hcheck, PettedInTime]
      exact ih hcontrol hrt' _ _

/-- With one, the first round is the only one of `kernel_main`. -/
theorem pettedInTime_scheduler {scheduler : SchedulerState} {started : UInt64}
    {readings : List RoundReadings}
    (hclock : (started :: readings.map (·.currentTime)).Pairwise (· ≤ ·)) :
    PettedInTime started started (mealy KernelMain.step (.init scheduler true started) readings).1 ↔
      PassesEarly started readings := by
  cases readings with
  | nil => exact iff_of_true trivial trivial
  | cons check passes =>
      rw [List.map_cons, List.pairwise_cons] at hclock
      have hle : started ≤ check.currentTime := hclock.1 _ List.mem_cons_self
      obtain ⟨hpet, hrecent⟩ := firstPet_spec hle
      have hcheck : ((KernelMain.init scheduler true started).step check).1 =
          .check check.currentTime
            (if check.currentTime - started ≥ 500000 then petBlock else []) := rfl
      have hcontrol : ((KernelMain.init scheduler true started).step check).2.control =
          .schedulerStart := rfl
      rw [mealy_cons, hcheck, PettedInTime, if_congr (calls_eq_petBlock_iff _) rfl rfl]
      change PettedInTime (firstPet started check.currentTime) _ _ ↔ _
      rw [pettedInTime_passes hcontrol hpet hclock.2, PassesEarly]
      -- the first round itself is never late
      cases passes with
      | nil => simp
      | cons pass passes =>
          rw [List.map_cons, List.dropLast_cons_cons, List.forall_mem_cons, ← List.map_cons,
            ← List.map_dropLast, List.forall_mem_map]
          exact and_iff_right hrecent

/-- **The watchdogs are petted in time** if and only if the scheduler is not
initialised, so that no pass is made, or all passes but the last start within
half a second of the only time `kernel_main` can pet at. -/
theorem watchdogs_petted_iff (scheduler : SchedulerState) (rtInitialized : Bool) (started : UInt64)
    (readings : List RoundReadings)
    (hclock : (started :: readings.map (·.currentTime)).Pairwise (· ≤ ·)) :
    PettedInTime started started
        (mealy KernelMain.step (.init scheduler rtInitialized started) readings).1 ↔
      rtInitialized = false ∨ PassesEarly started readings := by
  cases rtInitialized with
  | false => exact iff_of_true (pettedInTime_checks rfl rfl _ _ _) (.inl rfl)
  | true =>
      rw [pettedInTime_scheduler hclock]
      exact (or_iff_right (by decide)).symm

/-- A scheduler that makes a pass every 300 milliseconds. -/
def passesEvery300Ms : List RoundReadings :=
  [⟨0, 0⟩, ⟨300000, 300000⟩, ⟨600000, 600000⟩, ⟨900000, 900000⟩]

/-- In the third pass the watchdogs have not been petted for 900 milliseconds. -/
theorem watchdogs_not_always_petted :
    ((0 : UInt64) :: passesEvery300Ms.map (·.currentTime)).Pairwise (· ≤ ·) ∧
      ¬ PettedInTime 0 0
        (mealy KernelMain.step (.init (schedulerInit 0) true 0) passesEvery300Ms).1 := by
  decide

/-- The same run, stated as the equivalence. -/
theorem watchdogs_petted_iff_passesEvery300Ms :
    PettedInTime 0 0 (mealy KernelMain.step (.init (schedulerInit 0) true 0) passesEvery300Ms).1 ↔
      true = false ∨ PassesEarly 0 passesEvery300Ms :=
  watchdogs_petted_iff (schedulerInit 0) true 0 passesEvery300Ms (by decide)

end AutoMlos
