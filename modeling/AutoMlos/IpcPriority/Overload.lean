import AutoMlos.IpcPriority
import Mathlib.Order.Basic

/-!
# AutoMlos.IpcPriority.Overload

Which load takes which branch.

The percentage of a depth is computed in `int` and handed on in eight bits, so
a load of 256 percent or more is seen modulo 256: the overload is recognised
where the percentage fits, or where what is left of it is critical by chance.
-/

namespace AutoMlos

open Lib

/-- How far the measures of a branch go. -/
def AdjustBranch.severity : AdjustBranch → Nat
  | .normal => 0
  | .high => 1
  | .critical => 2

/-- The branch that `ipc_adjust_priority_dynamic` takes for a level. -/
def IpcPriorityConfigs.branch (g : IpcPriorityConfigs) (level : IpcPriority)
    (currentDepth : UInt16) : AdjustBranch :=
  adjustBranch (calculateUtilization g level.value currentDepth)

/-- The branch is the one that the exact load calls for. -/
structure Recognised (g : IpcPriorityConfigs) (level : IpcPriority) (currentDepth : UInt16) :
    Prop where
  critical_iff : g.branch level currentDepth = .critical ↔
    95 * (g level).maxQueueDepth.toNat ≤ currentDepth.toNat * 100
  high_iff : g.branch level currentDepth = .high ↔
    80 * (g level).maxQueueDepth.toNat ≤ currentDepth.toNat * 100 ∧
      currentDepth.toNat * 100 < 95 * (g level).maxQueueDepth.toNat

/-- No smaller depth takes a more severe branch. -/
def MonotoneUpTo (g : IpcPriorityConfigs) (level : IpcPriority) (currentDepth : UInt16) : Prop :=
  ∀ smaller ≤ currentDepth,
    (g.branch level smaller).severity ≤ (g.branch level currentDepth).severity

/-! ## the branch of a percentage -/

/-- The branch of a percentage that is cut to eight bits. -/
def branchOfPercent (percent : Nat) : AdjustBranch :=
  adjustBranch (UInt8.ofNat percent)

theorem branchOfPercent_eq (percent : Nat) :
    branchOfPercent percent =
      if 95 ≤ percent % 256 then .critical
      else if 80 ≤ percent % 256 then .high
      else .normal := by
  have hle (bound : UInt8) : UInt8.ofNat percent ≥ bound ↔ bound.toNat ≤ percent % 256 := by
    rw [ge_iff_le, UInt8.le_iff_toNat_le, UInt8.toNat_ofNat']
  simp only [branchOfPercent, adjustBranch, hle]
  rfl

theorem branchOfPercent_eq_critical_iff {percent : Nat} :
    branchOfPercent percent = .critical ↔ 95 ≤ percent % 256 := by
  rw [branchOfPercent_eq]
  split_ifs <;> simp [*]

theorem branchOfPercent_eq_high_iff {percent : Nat} :
    branchOfPercent percent = .high ↔ 80 ≤ percent % 256 ∧ percent % 256 < 95 := by
  rw [branchOfPercent_eq]
  split_ifs <;> simp <;> omega

theorem severity_le_two (branch : AdjustBranch) : branch.severity ≤ 2 := by
  cases branch <;> decide

/-- The branches of percentages that fit are ordered like these. -/
theorem severity_branchOfPercent_mono {p q : Nat} (hpq : p ≤ q) (hq : q < 256) :
    (branchOfPercent p).severity ≤ (branchOfPercent q).severity := by
  rw [branchOfPercent_eq, branchOfPercent_eq, Nat.mod_eq_of_lt hq,
    Nat.mod_eq_of_lt (hpq.trans_lt hq)]
  split_ifs <;> first | decide | omega

/-! ## the percentage of a depth -/

namespace IpcPriorityConfig

variable {config : IpcPriorityConfig}

/-- A percentage reaches a bound exactly if the depth reaches that share of the
capacity. -/
theorem le_percent_iff (hcap : 0 < config.maxQueueDepth) (bound : Nat) (currentDepth : UInt16) :
    bound ≤ config.percent currentDepth ↔
      bound * config.maxQueueDepth.toNat ≤ currentDepth.toNat * 100 :=
  Nat.le_div_iff_mul_le (UInt8.lt_iff_toNat_lt.mp hcap)

theorem percent_mono {smaller currentDepth : UInt16} (h : smaller ≤ currentDepth) :
    config.percent smaller ≤ config.percent currentDepth :=
  Nat.div_le_div_right (Nat.mul_le_mul_right 100 (UInt16.le_iff_toNat_le.mp h))

end IpcPriorityConfig

theorem IpcPriorityConfigs.branch_eq {g : IpcPriorityConfigs} {level : IpcPriority}
    (hcap : 0 < (g level).maxQueueDepth) (currentDepth : UInt16) :
    g.branch level currentDepth = branchOfPercent ((g level).percent currentDepth) := by
  have hne : (g level).maxQueueDepth ≠ 0 := UInt8.pos_iff_ne_zero.mp hcap
  rw [branch, calculateUtilization_eq (ipcPriority?_value level),
    IpcPriorityConfig.utilization, if_neg hne, branchOfPercent]

/-! ## every reachable table -/

/-- Every level that a call leaves behind has a capacity. -/
theorem PriorityCall.maxQueueDepth_pos {level : IpcPriority} {config config' : IpcPriorityConfig}
    {call : PriorityCall} (h : call.effect level config = some config')
    (hcap : 0 < config.maxQueueDepth) : 0 < config'.maxQueueDepth := by
  cases call with
  | set priority new =>
      obtain ⟨-, -, hdepth⟩ := effect_set_eq_some_iff.mp h
      exact UInt8.pos_iff_ne_zero.mpr hdepth
  | adjust priority currentDepth =>
      obtain rfl := effect_adjust_eq_some_iff.mp h
      exact hcap
  | getDynamic priority configNull currentDepth =>
      obtain ⟨-, rfl⟩ := effect_getDynamic_eq_some_iff.mp h
      exact hcap
  | reset priority =>
      obtain rfl := effect_reset_eq_some_iff.mp h
      cases level <;> decide

/-- Every level of a table that calls lead to has a capacity. -/
theorem maxQueueDepth_pos_of_calls (calls : List PriorityCall) (level : IpcPriority) :
    0 < ((mealy IpcPriorityConfigs.step defaultPriorityConfigs calls).2 level).maxQueueDepth := by
  have hstart (level : IpcPriority) : 0 < (defaultPriorityConfigs level).maxQueueDepth := by
    cases level <;> decide
  have hstep (g : IpcPriorityConfigs) (call : PriorityCall)
      (hg : ∀ level, 0 < (g level).maxQueueDepth) (level : IpcPriority) :
      0 < ((g.step call).2 level).maxQueueDepth :=
    IpcPriorityConfigs.forall_step (fun config => 0 < config.maxQueueDepth)
      (fun level _ _ heffect => PriorityCall.maxQueueDepth_pos heffect (hg level)) hg level
  exact mealy_invariant hstep hstart calls level

/-- The load of a level is recognised, and no smaller one is taken for worse,
exactly if its percentage fits in eight bits or is critical modulo 256. -/
theorem overload_recognised_iff (calls : List PriorityCall) (level : IpcPriority)
    (currentDepth : UInt16) :
    let g := (mealy IpcPriorityConfigs.step defaultPriorityConfigs calls).2
    (Recognised g level currentDepth ∧ MonotoneUpTo g level currentDepth) ↔
      (g level).percent currentDepth < 256 ∨ 95 ≤ (g level).percent currentDepth % 256 := by
  intro g
  have hcap : 0 < (g level).maxQueueDepth := maxQueueDepth_pos_of_calls calls level
  have hcritical := IpcPriorityConfig.le_percent_iff hcap 95 currentDepth
  have hhigh := IpcPriorityConfig.le_percent_iff hcap 80 currentDepth
  have hbranch := IpcPriorityConfigs.branch_eq hcap
  constructor
  · rintro ⟨hrec, -⟩
    by_contra hnot
    have hseen := hrec.critical_iff.mpr (hcritical.mp (by omega))
    rw [hbranch, branchOfPercent_eq_critical_iff] at hseen
    omega
  · intro hcond
    refine ⟨⟨?_, ?_⟩, fun smaller hsmaller => ?_⟩
    · rw [hbranch, branchOfPercent_eq_critical_iff, ← hcritical]
      omega
    · rw [hbranch, branchOfPercent_eq_high_iff, ← hhigh, ← Nat.not_le, ← Nat.not_le, ← hcritical]
      omega
    · rw [hbranch, hbranch]
      obtain hfits | hwrapped := hcond
      · exact severity_branchOfPercent_mono (IpcPriorityConfig.percent_mono hsmaller) hfits
      · rw [branchOfPercent_eq_critical_iff.mpr hwrapped]
        exact severity_le_two _

/-- With 26 messages for 10 places the emergency level is at 260 percent, which
is read as 4. -/
theorem overload_missed :
    ¬ ∀ (calls : List PriorityCall) (level : IpcPriority) (currentDepth : UInt16),
      let g := (mealy IpcPriorityConfigs.step defaultPriorityConfigs calls).2
      Recognised g level currentDepth ∧ MonotoneUpTo g level currentDepth := by
  intro h
  have hseen := (h [] .emergency 26).1.critical_iff
  exact absurd hseen (by decide)

end AutoMlos
