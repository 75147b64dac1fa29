import Mathlib.Algebra.Ring.Nat
import AutoMlos.IpcPriority
import AutoMlos.IpcPriority.Overload

/-!
# AutoMlos.IpcPriority.Invariant

What the levels of the table promise: a timeout, a capacity, and a utilization
that is a percentage.

A caller's configuration is stored with any utilization, a load is stored
modulo 256, and a timeout that grows by ten may wrap to zero.  The table keeps
its promise along a run exactly if no call does one of these.
-/

namespace AutoMlos

open Lib

/-- What a level promises. -/
structure IpcPriorityConfig.Qos (config : IpcPriorityConfig) : Prop where
  timeout_pos : 0 < config.timeoutMs
  depth_pos : 0 < config.maxQueueDepth
  utilization_le : config.currentUtilization ≤ 100

/-- Every level keeps its promise. -/
def IpcPriorityConfigs.Qos (g : IpcPriorityConfigs) : Prop :=
  ∀ level, (g level).Qos

/-- The load modulo 256 is a percentage, and a timeout that it makes grow does
not wrap to zero. -/
def IpcPriorityConfig.AdjustSafe (level : IpcPriority) (config : IpcPriorityConfig)
    (currentDepth : UInt16) : Prop :=
  config.percent currentDepth % 256 ≤ 100 ∧
    ¬(80 ≤ config.percent currentDepth % 256 ∧ config.percent currentDepth % 256 < 95 ∧
      level ≠ .info ∧ config.timeoutMs.toNat = 2 ^ 32 - 10)

/-- A call leaves a level that it names with what levels promise. -/
def PriorityCall.SafeFor (level : IpcPriority) (config : IpcPriorityConfig) : PriorityCall → Prop
  | .set _ none => True
  | .set _ (some new) =>
      new.timeoutMs ≠ 0 → new.maxQueueDepth ≠ 0 → new.currentUtilization ≤ 100
  | .adjust _ currentDepth => config.AdjustSafe level currentDepth
  | .getDynamic _ configNull currentDepth =>
      configNull = false → config.AdjustSafe level currentDepth
  | .reset _ => True

/-- A call is safe for the level it names, if it names one. -/
def PriorityCall.Safe (g : IpcPriorityConfigs) (call : PriorityCall) : Prop :=
  ∀ level, ipcPriority? call.priority = some level → call.SafeFor level (g level)

theorem qos_defaultPriorityConfigs : defaultPriorityConfigs.Qos := by
  intro level
  cases level <;> exact ⟨by decide, by decide, by decide⟩

/-- Ten more milliseconds wrap to zero from one value only. -/
theorem timeout_add_ten_pos_iff (timeoutMs : UInt32) :
    0 < timeoutMs + 10 ↔ timeoutMs.toNat ≠ 2 ^ 32 - 10 := by
  have hlt := timeoutMs.toNat_lt
  rw [UInt32.lt_iff_toNat_lt, UInt32.toNat_add]
  change 0 < (timeoutMs.toNat + 10) % 2 ^ 32 ↔ _
  omega

/-- An adjustment leaves a timeout exactly if it does not wrap one. -/
theorem IpcPriorityConfig.adjustedTimeout_pos_iff {config : IpcPriorityConfig}
    (htimeout : 0 < config.timeoutMs) (level : IpcPriority) (branch : AdjustBranch) :
    0 < config.adjustedTimeout level branch ↔
      ¬(branch = .high ∧ level ≠ .info ∧ config.timeoutMs.toNat = 2 ^ 32 - 10) := by
  cases branch with
  | normal => simpa [adjustedTimeout] using htimeout
  | high =>
      by_cases hinfo : level = .info
      · simpa [adjustedTimeout, hinfo] using htimeout
      · simp only [adjustedTimeout, if_neg hinfo, timeout_add_ten_pos_iff]
        simp [hinfo]
  | critical =>
      simp only [adjustedTimeout]
      split_ifs with hemergency hfloor
      · simpa using htimeout
      · simp
      · have hhalf : 0 < config.timeoutMs / 2 := by
          rw [UInt32.lt_iff_toNat_lt] at hfloor ⊢
          change 0 < _
          change ¬ _ < 5 at hfloor
          omega
        simpa using hhalf

/-- A level keeps its promise through an adjustment exactly if that is safe. -/
theorem IpcPriorityConfig.qos_adjusted_iff {config : IpcPriorityConfig} (hqos : config.Qos)
    (level : IpcPriority) (currentDepth : UInt16) :
    (config.adjusted level currentDepth).Qos ↔ config.AdjustSafe level currentDepth := by
  have hne : config.maxQueueDepth ≠ 0 := UInt8.pos_iff_ne_zero.mp hqos.depth_pos
  have hutil : config.utilization currentDepth ≤ 100 ↔ config.percent currentDepth % 256 ≤ 100 := by
    rw [utilization, if_neg hne, UInt8.le_iff_toNat_le, UInt8.toNat_ofNat']
    rfl
  have hbranch : adjustBranch (config.utilization currentDepth) = .high ↔
      80 ≤ config.percent currentDepth % 256 ∧ config.percent currentDepth % 256 < 95 := by
    rw [utilization, if_neg hne]
    exact branchOfPercent_eq_high_iff
  have htimeout := config.adjustedTimeout_pos_iff hqos.timeout_pos level
    (adjustBranch (config.utilization currentDepth))
  rw [hbranch, and_assoc] at htimeout
  constructor
  · intro h
    exact ⟨hutil.mp h.utilization_le, htimeout.mp h.timeout_pos⟩
  · rintro ⟨hle, hnowrap⟩
    exact ⟨htimeout.mpr hnowrap, hqos.depth_pos, hutil.mpr hle⟩

/-- The calls that are safe for a level are those that it refuses and those
that keep its promise. -/
theorem PriorityCall.safeFor_iff {level : IpcPriority} {config : IpcPriorityConfig}
    (hqos : config.Qos) (call : PriorityCall) :
    call.SafeFor level config ↔
      ∀ config', call.effect level config = some config' → config'.Qos := by
  cases call with
  | set priority new =>
      cases new with
      | none => simp [SafeFor]
      | some new =>
          constructor
          · intro hsafe config' heffect
            obtain ⟨hnew, htimeout, hdepth⟩ := effect_set_eq_some_iff.mp heffect
            obtain rfl := Option.some.inj hnew
            exact ⟨UInt32.pos_iff_ne_zero.mpr htimeout, UInt8.pos_iff_ne_zero.mpr hdepth,
              hsafe htimeout hdepth⟩
          · intro hkept htimeout hdepth
            exact (hkept new (effect_set_eq_some_iff.mpr ⟨rfl, htimeout, hdepth⟩)).utilization_le
  | adjust priority currentDepth =>
      simp [SafeFor, config.qos_adjusted_iff hqos]
  | getDynamic priority configNull currentDepth =>
      simp [SafeFor, config.qos_adjusted_iff hqos]
  | reset priority =>
      simp [SafeFor, qos_defaultPriorityConfigs level]

/-- A table keeps its promise through a call exactly if the call is safe. -/
theorem IpcPriorityConfigs.qos_step_iff {g : IpcPriorityConfigs} (hqos : g.Qos)
    (call : PriorityCall) : (g.step call).2.Qos ↔ call.Safe g := by
  constructor
  · intro hnext level hlevel
    refine (PriorityCall.safeFor_iff (hqos level) call).mpr fun config heffect => ?_
    have hkept := hnext level
    rwa [(step_of_effect hlevel heffect).2, Function.update_self] at hkept
  · intro hsafe
    exact forall_step IpcPriorityConfig.Qos (fun level config hlevel heffect =>
      (PriorityCall.safeFor_iff (hqos level) call).mp (hsafe level hlevel) config heffect) hqos

/-- From the initial table on, every level keeps its promise along a run
exactly if all calls of the run are safe. -/
theorem qos_along_run_iff (calls : List PriorityCall) :
    (defaultPriorityConfigs.Qos ∧
      Always (total IpcPriorityConfigs.step) (fun _ _ _ g' => g'.Qos) defaultPriorityConfigs
        calls) ↔
    Always (total IpcPriorityConfigs.step) (fun g call _ _ => call.Safe g) defaultPriorityConfigs
      calls := by
  rw [and_iff_right qos_defaultPriorityConfigs]
  have hstep (g : IpcPriorityConfigs) (call : PriorityCall) (hqos : g.Qos) :
      ((g.step call).2.Qos ↔ call.Safe g) ∧ ((g.step call).2.Qos → (g.step call).2.Qos) :=
    ⟨g.qos_step_iff hqos call, id⟩
  exact always_total_iff_always hstep qos_defaultPriorityConfigs calls

/-- A depth of 11 on the emergency level is stored as a utilization of 110. -/
theorem qos_lost :
    ¬ ∀ calls : List PriorityCall, defaultPriorityConfigs.Qos ∧
      Always (total IpcPriorityConfigs.step) (fun _ _ _ g' => g'.Qos) defaultPriorityConfigs
        calls := by
  intro h
  have hnext := (always_total_cons.mp (h [.adjust 0 11]).2).1 .emergency
  exact absurd hnext.utilization_le (by decide)

end AutoMlos
