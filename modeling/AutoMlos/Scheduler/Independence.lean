import AutoMlos.Scheduler.Admission
import AutoMlos.Scheduler.Feasibility

/-!
# AutoMlos.Scheduler.Independence

Whether processes that are not real-time ones play a role in the admission of
those that are.

Two sequences of creations that differ in calls without parameters only are
one list of calls, each made in both or in one of them (`PairedCall`).  The
utilization counts the same parameters in both, as long as no call without
parameters takes over those of a rejected one (`RtNeutral.counted`); but it is
compared with the bound for the number of all processes.
-/

namespace AutoMlos

open Lib RtSchedulingParams SchedulerState

/-- `process_create` with the utilization test over exact numbers. -/
abbrev processCreateExact : SchedulerState → CreateCall →
    (SystemError × Option UInt16) × SchedulerState :=
  processCreateUnder exactUtilizationTest

/-- The results of the calls with parameters: whether each was accepted. -/
def rtResults : SchedulerState → List CreateCall → List Bool
  | _, [] => []
  | s, call :: calls =>
      let result := processCreateExact s call
      if call.rtParams.isSome then created result.1 :: rtResults result.2 calls
      else rtResults result.2 calls

/-! ## two sequences side by side -/

/-- A call of two sequences: made in both, or in one of them. -/
inductive PairedCall where
  | both (call : CreateCall)
  | first (call : CreateCall)
  | second (call : CreateCall)

namespace PairedCall

def first? : PairedCall → Option CreateCall
  | both call => some call
  | first call => some call
  | second _ => none

def second? : PairedCall → Option CreateCall
  | both call => some call
  | first _ => none
  | second call => some call

/-- The first sequence. -/
def firsts (calls : List PairedCall) : List CreateCall := calls.filterMap first?

/-- The second one. -/
def seconds (calls : List PairedCall) : List CreateCall := calls.filterMap second?

/-- The two states after a call. -/
def step (st : SchedulerState × SchedulerState) : PairedCall →
    Unit × (SchedulerState × SchedulerState)
  | both call => ((), ((processCreateExact st.1 call).2, (processCreateExact st.2 call).2))
  | first call => ((), ((processCreateExact st.1 call).2, st.2))
  | second call => ((), (st.1, (processCreateExact st.2 call).2))

/-- A successful call without parameters. -/
def NonRealTime (s : SchedulerState) (call : CreateCall) : Prop :=
  call.rtParams = none ∧ created (processCreateExact s call).1 = true

/-- There is room for the process of a call with parameters. -/
def HasRoom (s : SchedulerState) (call : CreateCall) : Prop :=
  call.rtParams ≠ none → s.processCount.toNat < schedulerMaxProcesses

/-- The sequences differ in successful calls without parameters, and stay
within the table. -/
def Edited (st : SchedulerState × SchedulerState) : PairedCall → Prop
  | both call => HasRoom st.1 call ∧ HasRoom st.2 call
  | first call => NonRealTime st.1 call
  | second call => NonRealTime st.2 call

/-- A call without parameters finds none that are counted in its slot. -/
def SlotUncounted (s : SchedulerState) (call : CreateCall) : Prop :=
  call.rtParams = none → call.pid ≠ none → ∀ slot ∈ s.freeSlots.head?, slot.rtParams.periodMs = 0

/-- In both sequences. -/
def SlotsUncounted (st : SchedulerState × SchedulerState) : PairedCall → Prop
  | both call => SlotUncounted st.1 call ∧ SlotUncounted st.2 call
  | first call => SlotUncounted st.1 call
  | second call => SlotUncounted st.2 call

/-- The utilization with that of new parameters. -/
noncomputable def load (s : SchedulerState) (params : RtSchedulingParams) : ℝ :=
  ((systemUtilization s.counted + params.utilization : ℚ) : ℝ)

/-- What it may be with one more process. -/
noncomputable def loadBound (s : SchedulerState) : ℝ :=
  rmsBound (s.processCount.toNat + 1) - (safetyMargin : ℝ)

/-- The load of a call with parameters is not between the bounds for the
numbers of processes in the two sequences. -/
def NotBetween (st : SchedulerState × SchedulerState) : PairedCall → Prop
  | both call => ∀ params, call.rtParams = some params → call.pid ≠ none → params.WellFormed →
      params.executionTimeUs < params.periodUs % 2 ^ 32 →
      ¬ (min (loadBound st.1) (loadBound st.2) < load st.1 params ∧
        load st.1 params ≤ max (loadBound st.1) (loadBound st.2))
  | _ => True

end PairedCall

open PairedCall

/-! ## one call -/

section Call

variable {s t : SchedulerState} {call : CreateCall} {params : RtSchedulingParams}

/-- A call is accepted exactly when it is admissible. -/
theorem created_iff : created (processCreateExact s call).1 = true ↔
    ∃ slot slots, Admissible exactUtilizationTest s call slot slots := by
  constructor
  · exact exists_admissible
  · rintro ⟨slot, slots, hcall⟩
    rw [hcall.spec.1]
    rfl

/-- With room, a call with parameters is accepted exactly when these are
feasible. -/
theorem created_rt_iff (hroom : s.processCount.toNat < schedulerMaxProcesses)
    (hparams : call.rtParams = some params) :
    created (processCreateExact s call).1 = true ↔ call.pid ≠ none ∧ s.feasible params = true := by
  have hslots : s.freeSlots ≠ [] := by
    rw [← List.length_pos_iff, length_freeSlots]
    omega
  have hfeasible : schedulerRtFeasibilityCheck call.rtParams
      (s.withinBound exactUtilizationTest call) = s.feasible params := by
    rw [withinBound, hparams]
    rfl
  rw [created_iff]
  constructor
  · rintro ⟨slot, slots, hcall⟩
    exact ⟨hcall.pid, hfeasible.symm.trans hcall.feasible⟩
  · rintro ⟨hpid, haccepted⟩
    obtain ⟨slot, slots, heq⟩ := List.exists_cons_of_ne_nil hslots
    exact ⟨slot, slots, hpid, heq, hfeasible.trans haccepted⟩

/-- The exact test is the comparison of the load with the bound. -/
theorem feasible_iff : s.feasible params = true ↔
    params.WellFormed ∧ params.executionTimeUs < params.periodUs % 2 ^ 32 ∧
      load s params ≤ loadBound s := by
  rw [SchedulerState.feasible, schedulerRtFeasibilityCheck_iff,
    exactUtilizationTest_iff _ (Nat.succ_pos _)]
  rfl

/-- A call that is not accepted counts nothing. -/
theorem counted_of_not_created (h : created (processCreateExact s call).1 = false) :
    (processCreateExact s call).2.counted = s.counted := by
  rw [SchedulerState.counted, (not_created_spec h).2]
  rfl

/-- One that is counts what it has written. -/
theorem counted_of_created {slot : ProcessControlBlock} {slots : List ProcessControlBlock}
    (h : Admissible exactUtilizationTest s call slot slots) :
    (processCreateExact s call).2.counted =
      s.counted ++ [call.rtParams.getD slot.rtParams].filter (·.periodMs > 0) := by
  rw [SchedulerState.counted, h.spec.2.2.1, List.map_append, List.filter_append]
  rfl

/-- A call without parameters counts nothing if it finds nothing that is
counted. -/
theorem counted_of_none (hnone : call.rtParams = none) (hslot : SlotUncounted s call) :
    (processCreateExact s call).2.counted = s.counted := by
  cases hreply : created (processCreateExact s call).1 with
  | false => exact counted_of_not_created hreply
  | true =>
      obtain ⟨slot, slots, hcall⟩ := exists_admissible hreply
      have hzero : slot.rtParams.periodMs = 0 :=
        hslot hnone hcall.pid slot (by rw [hcall.freeSlots]; rfl)
      have huncounted : ¬ slot.rtParams.periodMs > 0 := by
        rw [hzero]
        decide
      rw [counted_of_created hcall, hnone]
      simp [huncounted]

/-- A call with parameters that is accepted counts these. -/
theorem counted_of_some (hparams : call.rtParams = some params)
    (h : created (processCreateExact s call).1 = true) :
    (processCreateExact s call).2.counted = s.counted ++ [params] := by
  obtain ⟨slot, slots, hcall⟩ := exists_admissible h
  have hperiod : params.periodMs > 0 := by
    have hfeasible := hcall.feasible
    rw [hparams] at hfeasible
    exact periodMs_pos_of_feasible hfeasible
  rw [counted_of_created hcall, hparams]
  simp [hperiod]

/-- The same side of two bounds. -/
theorem le_iff_le_iff_not_between {x a b : ℝ} :
    (x ≤ a ↔ x ≤ b) ↔ ¬ (min a b < x ∧ x ≤ max a b) := by
  rw [min_lt_iff, le_max_iff, ← not_le, ← not_le]
  tauto

/-- **A call with parameters in both sequences** has the same result exactly if
its load is not between the bounds. -/
theorem created_both_iff (hcounted : t.counted = s.counted) (hparams : call.rtParams = some params)
    (hroom : HasRoom s call ∧ HasRoom t call) :
    created (processCreateExact s call).1 = created (processCreateExact t call).1 ↔
      NotBetween (s, t) (.both call) := by
  have hsome : call.rtParams ≠ none := by simp [hparams]
  have hload : load t params = load s params := by rw [load, load, hcounted]
  rw [Bool.eq_iff_iff, created_rt_iff (hroom.1 hsome) hparams,
    created_rt_iff (hroom.2 hsome) hparams, feasible_iff, feasible_iff, hload]
  constructor
  · intro h params' hparams' hpid hwell hpasses
    obtain rfl : params' = params := Option.some.inj (hparams'.symm.trans hparams)
    rw [← le_iff_le_iff_not_between]
    simpa only [ne_eq, hpid, not_false_eq_true, hwell, hpasses, true_and] using h
  · intro h
    refine and_congr_right fun hpid => and_congr_right fun hwell =>
      and_congr_right fun hpasses => ?_
    exact le_iff_le_iff_not_between.mpr (h params hparams hpid hwell hpasses)

/-- Then both sequences go on counting the same parameters. -/
theorem counted_both (hcounted : t.counted = s.counted) (hparams : call.rtParams = some params)
    (hsame : created (processCreateExact s call).1 = created (processCreateExact t call).1) :
    (processCreateExact t call).2.counted = (processCreateExact s call).2.counted := by
  cases hreply : created (processCreateExact s call).1 with
  | false =>
      rw [counted_of_not_created hreply, counted_of_not_created (hsame.symm.trans hreply), hcounted]
  | true =>
      rw [counted_of_some hparams hreply, counted_of_some hparams (hsame.symm.trans hreply),
        hcounted]

theorem rtResults_cons_of_none (hnone : call.rtParams = none) (calls : List CreateCall) :
    rtResults s (call :: calls) = rtResults (processCreateExact s call).2 calls := by
  exact if_neg (by simp [hnone])

theorem rtResults_cons_of_some (hparams : call.rtParams = some params) (calls : List CreateCall) :
    rtResults s (call :: calls) = created (processCreateExact s call).1 ::
      rtResults (processCreateExact s call).2 calls := by
  exact if_pos (by simp [hparams])

/-- **One call in both sequences**: its results are the same exactly if its load
is not between the bounds, and then the rest starts from the same parameters. -/
theorem rtResults_both_iff (hcounted : t.counted = s.counted)
    (hroom : HasRoom s call ∧ HasRoom t call) (hslot : SlotUncounted s call ∧ SlotUncounted t call)
    {calls calls' : List CreateCall} {rest : Prop}
    (hrest : (processCreateExact t call).2.counted = (processCreateExact s call).2.counted →
      (rtResults (processCreateExact s call).2 calls =
        rtResults (processCreateExact t call).2 calls' ↔ rest)) :
    rtResults s (call :: calls) = rtResults t (call :: calls') ↔
      NotBetween (s, t) (.both call) ∧ rest := by
  cases hparams : call.rtParams with
  | none =>
      have hnext : (processCreateExact t call).2.counted =
          (processCreateExact s call).2.counted := by
        rw [counted_of_none hparams hslot.1, counted_of_none hparams hslot.2, hcounted]
      have htrivial : NotBetween (s, t) (.both call) := by
        intro params hsome
        rw [hparams] at hsome
        contradiction
      rw [rtResults_cons_of_none hparams, rtResults_cons_of_none hparams, hrest hnext]
      exact (and_iff_right htrivial).symm
  | some params =>
      rw [rtResults_cons_of_some hparams, rtResults_cons_of_some hparams, List.cons.injEq,
        created_both_iff hcounted hparams hroom]
      refine and_congr_right fun hbetween => ?_
      have hsame := (created_both_iff hcounted hparams hroom).mpr hbetween
      exact hrest (counted_both hcounted hparams hsame)

end Call

/-! ## two sequences -/

/-- From two states that count the same parameters. -/
theorem rtResults_eq_iff {s t : SchedulerState} (hcounted : t.counted = s.counted)
    {calls : List PairedCall}
    (hedited : Always (total PairedCall.step) (fun st call _ _ => Edited st call) (s, t) calls)
    (hslots : Always (total PairedCall.step) (fun st call _ _ => SlotsUncounted st call)
      (s, t) calls) :
    rtResults s (firsts calls) = rtResults t (seconds calls) ↔
      Always (total PairedCall.step) (fun st call _ _ => NotBetween st call) (s, t) calls := by
  induction calls generalizing s t with
  | nil => exact iff_of_true rfl trivial
  | cons paired calls ih =>
      rw [always_total_cons] at hedited hslots ⊢
      obtain ⟨hnow, hlater⟩ := hedited
      obtain ⟨hslot, hslots⟩ := hslots
      cases paired with
      | first call =>
          have hfirsts : firsts (.first call :: calls) = call :: firsts calls := rfl
          have hseconds : seconds (.first call :: calls) = seconds calls := rfl
          have hnext : t.counted = (processCreateExact s call).2.counted := by
            rw [counted_of_none hnow.1 hslot, hcounted]
          rw [hfirsts, hseconds, rtResults_cons_of_none hnow.1, ih hnext hlater hslots]
          exact (and_iff_right trivial).symm
      | second call =>
          have hfirsts : firsts (.second call :: calls) = firsts calls := rfl
          have hseconds : seconds (.second call :: calls) = call :: seconds calls := rfl
          have hnext : (processCreateExact t call).2.counted = s.counted := by
            rw [counted_of_none hnow.1 hslot, hcounted]
          rw [hfirsts, hseconds, rtResults_cons_of_none hnow.1, ih hnext hlater hslots]
          exact (and_iff_right trivial).symm
      | both call =>
          have hfirsts : firsts (.both call :: calls) = call :: firsts calls := rfl
          have hseconds : seconds (.both call :: calls) = call :: seconds calls := rfl
          rw [hfirsts, hseconds]
          exact rtResults_both_iff hcounted hnow hslot fun hnext => ih hnext hlater hslots

/-- **Processes that are not real-time ones do not affect the admission of
those that are**, in two sequences in which no call without parameters takes
over a rejected period, exactly as long as no load is between the two
bounds. -/
theorem rt_admission_independent_iff (uptime uptime' : UInt64) (calls : List PairedCall)
    (hedited : Always (total PairedCall.step) (fun st call _ _ => Edited st call)
      (schedulerInit uptime, schedulerInit uptime') calls)
    (hslots : Always (total PairedCall.step) (fun st call _ _ => SlotsUncounted st call)
      (schedulerInit uptime, schedulerInit uptime') calls) :
    rtResults (schedulerInit uptime) (firsts calls) =
        rtResults (schedulerInit uptime') (seconds calls) ↔
      Always (total PairedCall.step) (fun st call _ _ => NotBetween st call)
        (schedulerInit uptime, schedulerInit uptime') calls := by
  have hcounted : (schedulerInit uptime').counted = (schedulerInit uptime).counted := by
    rw [(empty_schedulerInit uptime).counted, (empty_schedulerInit uptime').counted]
  exact rtResults_eq_iff hcounted hedited hslots

/-- A call without parameters, made in the second sequence only, and one of
eighty percent. -/
def eightyPercent : List PairedCall :=
  [.second ⟨some 0, .normal, none⟩, .both ⟨some 0, .normal, some ⟨10, 10, 8000, 0⟩⟩]

theorem edited_eightyPercent :
    Always (total PairedCall.step) (fun st call _ _ => Edited st call)
      (schedulerInit 0, schedulerInit 0) eightyPercent := by
  simp only [eightyPercent, always_total_cons]
  refine ⟨⟨rfl, by decide⟩, ⟨fun _ => ?_, fun _ => ?_⟩, trivial⟩
  · decide
  · decide

theorem slotsUncounted_eightyPercent :
    Always (total PairedCall.step) (fun st call _ _ => SlotsUncounted st call)
      (schedulerInit 0, schedulerInit 0) eightyPercent := by
  simp only [eightyPercent, always_total_cons]
  refine ⟨?_, ⟨?_, ?_⟩, trivial⟩
  · intro _ _ slot hslot
    obtain rfl : ProcessControlBlock.zero = slot := Option.some.inj hslot
    rfl
  · exact fun hnone => by contradiction
  · exact fun hnone => by contradiction

theorem rt_admission_independent_iff_eightyPercent :
    rtResults (schedulerInit 0) (firsts eightyPercent) =
        rtResults (schedulerInit 0) (seconds eightyPercent) ↔
      Always (total PairedCall.step) (fun st call _ _ => NotBetween st call)
        (schedulerInit 0, schedulerInit 0) eightyPercent :=
  rt_admission_independent_iff 0 0 eightyPercent edited_eightyPercent slotsUncounted_eightyPercent

/-- It is accepted first, and rejected after a process that is not a real-time
one. -/
theorem rt_admission_not_always_independent :
    ¬ ∀ (uptime uptime' : UInt64) (calls : List PairedCall),
      Always (total PairedCall.step) (fun st call _ _ => Edited st call)
        (schedulerInit uptime, schedulerInit uptime') calls →
      rtResults (schedulerInit uptime) (firsts calls) =
        rtResults (schedulerInit uptime') (seconds calls) := by
  intro h
  let s := schedulerInit 0
  let t := (processCreateExact s ⟨some 0, .normal, none⟩).2
  let call : CreateCall := ⟨some 0, .normal, some ⟨10, 10, 8000, 0⟩⟩
  have hsame : [created (processCreateExact s call).1] = [created (processCreateExact t call).1] :=
    h 0 0 eightyPercent edited_eightyPercent
  have hwell : WellFormed ⟨10, 10, 8000, 0⟩ := ⟨by decide, by decide, by decide, by decide⟩
  have hfirst : created (processCreateExact s call).1 = true :=
    (created_rt_iff (by decide) rfl).mpr
      ⟨by decide, ((empty_schedulerInit 0).feasible_iff hwell).mpr (by decide)⟩
  have htest : exactUtilizationTest [] 2 ⟨10, 10, 8000, 0⟩ = false := by
    have hshare : utilization ⟨10, 10, 8000, 0⟩ = 4 / 5 := by
      have hexecution : (8000 : UInt32).toNat = 8000 := rfl
      have hperiod : (10 : UInt32).toNat = 10 := rfl
      norm_num [utilization, hexecution, hperiod]
    norm_num [exactUtilizationTest, systemUtilization, hshare, safetyMargin]
  have hsecond : ¬ created (processCreateExact t call).1 = true := by
    rw [created_rt_iff (by decide) rfl, SchedulerState.feasible, schedulerRtFeasibilityCheck_iff]
    have hcounted : t.counted = [] := by decide
    have hcount : t.processCount.toNat + 1 = 2 := by decide
    rw [hcounted, hcount, htest]
    simp
  exact hsecond ((List.cons.inj hsame).1 ▸ hfirst)

end AutoMlos
