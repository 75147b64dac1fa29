import AutoMlos.Lib.Run
import Mathlib.Logic.Function.Basic

/-!
# AutoMlos.IpcPriority

The priority levels of the IPC library (`lib/libipc/ipc_priority.c`).

Each level has a configuration that callers replace, that the load adjusts, and
that can be reset to its default.  A priority that an argument names is any
integer; four of them are levels.
-/

namespace AutoMlos

open Lib

/-- `ipc_priority_t`. -/
inductive IpcPriority where
  | emergency
  | error
  | warning
  | info
  deriving DecidableEq, Repr

/-- The value of a level. -/
def IpcPriority.value : IpcPriority → Int
  | .emergency => 0
  | .error => 1
  | .warning => 2
  | .info => 3

/-- `IPC_PRIORITY_COUNT`. -/
def ipcPriorityCount : Int := 4

/-- `ipc_validate_priority`. -/
def ipcValidatePriority (priority : Int) : Bool :=
  priority ≥ IpcPriority.emergency.value ∧ priority < ipcPriorityCount

/-- The level an argument names. -/
def ipcPriority? : Int → Option IpcPriority
  | 0 => some .emergency
  | 1 => some .error
  | 2 => some .warning
  | 3 => some .info
  | _ => none

/-- `ipc_priority_config_t`. -/
structure IpcPriorityConfig where
  timeoutMs : UInt32
  retryCount : UInt8
  maxQueueDepth : UInt8
  currentUtilization : UInt8
  deriving DecidableEq, Repr

/-- The type of `g_priority_configs`. -/
abbrev IpcPriorityConfigs : Type := IpcPriority → IpcPriorityConfig

/-- The initial table of `g_priority_configs`. -/
def defaultPriorityConfigs : IpcPriorityConfigs
  | .emergency => ⟨10, 3, 10, 0⟩
  | .error => ⟨50, 2, 20, 0⟩
  | .warning => ⟨100, 1, 50, 0⟩
  | .info => ⟨500, 0, 100, 0⟩

/-- `UTILIZATION_HIGH_THRESHOLD`. -/
def utilizationHighThreshold : UInt8 := 80

/-- `UTILIZATION_CRITICAL_THRESHOLD`. -/
def utilizationCriticalThreshold : UInt8 := 95

/-! ## adjusting -/

/-- `calculate_utilization`: the percentage is computed in `int` and returned
in eight bits. -/
def calculateUtilization (g : IpcPriorityConfigs) (priority : Int) (currentDepth : UInt16) :
    UInt8 :=
  match ipcPriority? priority with
  | none => 0
  | some level =>
      let maxDepth := (g level).maxQueueDepth.toUInt16
      if maxDepth = 0 then 100
      else UInt8.ofNat (currentDepth.toNat * 100 / maxDepth.toNat)

/-- The branches of `ipc_adjust_priority_dynamic`. -/
inductive AdjustBranch where
  | normal
  | high
  | critical
  deriving DecidableEq, Repr

/-- The branch that a utilization leads to. -/
def adjustBranch (utilization : UInt8) : AdjustBranch :=
  if utilization ≥ utilizationCriticalThreshold then .critical
  else if utilization ≥ utilizationHighThreshold then .high
  else .normal

/-- `ipc_adjust_priority_dynamic`. -/
def ipcAdjustPriorityDynamic (priority : Int) (currentDepth : UInt16) (g : IpcPriorityConfigs) :
    Int × IpcPriorityConfigs :=
  match ipcPriority? priority with
  | none => (-1, g)
  | some level =>
      let utilization := calculateUtilization g priority currentDepth
      let config := { g level with currentUtilization := utilization }
      match adjustBranch utilization with
      | .critical =>
          if level.value > IpcPriority.emergency.value then
            let timeoutMs := config.timeoutMs / 2
            let timeoutMs := if timeoutMs < 5 then 5 else timeoutMs
            (1, Function.update g level { config with timeoutMs })
          else (0, Function.update g level config)
      | .high =>
          let config :=
            if level.value < IpcPriority.info.value then
              { config with timeoutMs := config.timeoutMs + 10 }
            else config
          (1, Function.update g level config)
      | .normal => (0, Function.update g level config)

/-- `ipc_get_dynamic_priority_config`, with what it copies to the caller. -/
def ipcGetDynamicPriorityConfig (priority : Int) (configNull : Bool) (currentDepth : UInt16)
    (g : IpcPriorityConfigs) : (Int × Option IpcPriorityConfig) × IpcPriorityConfigs :=
  if configNull then ((-1, none), g)
  else
    match ipcPriority? priority with
    | none => ((-1, none), g)
    | some level =>
        let (_, g) := ipcAdjustPriorityDynamic priority currentDepth g
        ((0, some (g level)), g)

/-! ## replacing and resetting -/

/-- `ipc_reset_priority_config`. -/
def ipcResetPriorityConfig (priority : Int) (g : IpcPriorityConfigs) : Int × IpcPriorityConfigs :=
  match ipcPriority? priority with
  | none => (-1, g)
  | some level =>
      let config :=
        match level with
        | .emergency => { g level with timeoutMs := 10, retryCount := 3, maxQueueDepth := 10 }
        | .error => { g level with timeoutMs := 50, retryCount := 2, maxQueueDepth := 20 }
        | .warning => { g level with timeoutMs := 100, retryCount := 1, maxQueueDepth := 50 }
        | .info => { g level with timeoutMs := 500, retryCount := 0, maxQueueDepth := 100 }
      (0, Function.update g level { config with currentUtilization := 0 })

/-- `ipc_set_priority_config`; `none` is NULL. -/
def ipcSetPriorityConfig (priority : Int) (config : Option IpcPriorityConfig)
    (g : IpcPriorityConfigs) : Int × IpcPriorityConfigs :=
  match config with
  | none => (-1, g)
  | some config =>
      match ipcPriority? priority with
      | none => (-1, g)
      | some level =>
          if config.timeoutMs = 0 ∨ config.maxQueueDepth = 0 then (-1, g)
          else (0, Function.update g level config)

/-! ## runs -/

/-- A call that may change a configuration. -/
inductive PriorityCall where
  | set (priority : Int) (config : Option IpcPriorityConfig)
  | adjust (priority : Int) (currentDepth : UInt16)
  | getDynamic (priority : Int) (configNull : Bool) (currentDepth : UInt16)
  | reset (priority : Int)
  deriving DecidableEq, Repr

/-- The priority that a call names. -/
def PriorityCall.priority : PriorityCall → Int
  | .set priority _ => priority
  | .adjust priority _ => priority
  | .getDynamic priority _ _ => priority
  | .reset priority => priority

/-- What a call returns, and the configuration it hands out. -/
structure PriorityReply where
  result : Int
  config : Option IpcPriorityConfig
  deriving DecidableEq, Repr

/-- One call. -/
def IpcPriorityConfigs.step (g : IpcPriorityConfigs) :
    PriorityCall → PriorityReply × IpcPriorityConfigs
  | .set priority config =>
      let (result, g) := ipcSetPriorityConfig priority config g
      (⟨result, none⟩, g)
  | .adjust priority currentDepth =>
      let (result, g) := ipcAdjustPriorityDynamic priority currentDepth g
      (⟨result, none⟩, g)
  | .getDynamic priority configNull currentDepth =>
      let ((result, config), g) := ipcGetDynamicPriorityConfig priority configNull currentDepth g
      (⟨result, config⟩, g)
  | .reset priority =>
      let (result, g) := ipcResetPriorityConfig priority g
      (⟨result, none⟩, g)

/-! ## what a call does to a level -/

/-- An argument names a level exactly if it is valid. -/
theorem isSome_ipcPriority? (priority : Int) :
    (ipcPriority? priority).isSome = ipcValidatePriority priority := by
  unfold ipcPriority?
  split
  · rfl
  · rfl
  · rfl
  · rfl
  · next h0 h1 h2 h3 =>
    have hout : ¬(priority ≥ 0 ∧ priority < 4) := by grind
    exact (decide_eq_false hout).symm

@[simp] theorem ipcPriority?_value (level : IpcPriority) :
    ipcPriority? level.value = some level := by
  cases level <;> rfl

namespace IpcPriorityConfig

/-- The load of a level in percent, over the natural numbers. -/
def percent (config : IpcPriorityConfig) (currentDepth : UInt16) : Nat :=
  currentDepth.toNat * 100 / config.maxQueueDepth.toNat

/-- The utilization that is computed for a level. -/
def utilization (config : IpcPriorityConfig) (currentDepth : UInt16) : UInt8 :=
  if config.maxQueueDepth = 0 then 100 else UInt8.ofNat (config.percent currentDepth)

/-- The timeout after an adjustment. -/
def adjustedTimeout (config : IpcPriorityConfig) (level : IpcPriority) : AdjustBranch → UInt32
  | .critical =>
      if level = .emergency then config.timeoutMs
      else if config.timeoutMs / 2 < 5 then 5 else config.timeoutMs / 2
  | .high => if level = .info then config.timeoutMs else config.timeoutMs + 10
  | .normal => config.timeoutMs

/-- The configuration of a level after an adjustment. -/
def adjusted (config : IpcPriorityConfig) (level : IpcPriority) (currentDepth : UInt16) :
    IpcPriorityConfig :=
  { config with
    timeoutMs := config.adjustedTimeout level (adjustBranch (config.utilization currentDepth))
    currentUtilization := config.utilization currentDepth }

end IpcPriorityConfig

/-- What a call leaves of a level it names, from that level alone; `none` if it
refuses. -/
def PriorityCall.effect (level : IpcPriority) (config : IpcPriorityConfig) :
    PriorityCall → Option IpcPriorityConfig
  | .set _ none => none
  | .set _ (some new) => if new.timeoutMs = 0 ∨ new.maxQueueDepth = 0 then none else some new
  | .adjust _ currentDepth => some (config.adjusted level currentDepth)
  | .getDynamic _ configNull currentDepth =>
      if configNull then none else some (config.adjusted level currentDepth)
  | .reset _ => some (defaultPriorityConfigs level)

namespace PriorityCall

variable {level : IpcPriority} {config config' : IpcPriorityConfig} {priority : Int}

/-- A new configuration is accepted exactly if it has a timeout and a
capacity. -/
@[simp] theorem effect_set_eq_some_iff {new : Option IpcPriorityConfig} :
    (PriorityCall.set priority new).effect level config = some config' ↔
      new = some config' ∧ config'.timeoutMs ≠ 0 ∧ config'.maxQueueDepth ≠ 0 := by
  cases new with
  | none => simp [effect]
  | some new =>
      by_cases hzero : new.timeoutMs = 0 ∨ new.maxQueueDepth = 0
      · simp only [effect, if_pos hzero, Option.some.injEq]
        grind
      · simp only [effect, if_neg hzero, Option.some.injEq]
        grind

@[simp] theorem effect_adjust_eq_some_iff {currentDepth : UInt16} :
    (PriorityCall.adjust priority currentDepth).effect level config = some config' ↔
      config.adjusted level currentDepth = config' := by
  simp [effect]

@[simp] theorem effect_getDynamic_eq_some_iff {configNull : Bool} {currentDepth : UInt16} :
    (PriorityCall.getDynamic priority configNull currentDepth).effect level config = some config' ↔
      configNull = false ∧ config.adjusted level currentDepth = config' := by
  cases configNull <;> simp [effect]

@[simp] theorem effect_reset_eq_some_iff :
    (PriorityCall.reset priority).effect level config = some config' ↔
      defaultPriorityConfigs level = config' := by
  simp [effect]

end PriorityCall

section Calls

variable {g : IpcPriorityConfigs} {priority : Int} {level : IpcPriority}

theorem calculateUtilization_eq (hlevel : ipcPriority? priority = some level)
    (currentDepth : UInt16) :
    calculateUtilization g priority currentDepth = (g level).utilization currentDepth := by
  have hzero : (g level).maxQueueDepth.toUInt16 = 0 ↔ (g level).maxQueueDepth = 0 := by
    rw [← UInt16.toNat_inj, ← UInt8.toNat_inj, UInt8.toNat_toUInt16]
    rfl
  simp only [calculateUtilization, hlevel, hzero, UInt8.toNat_toUInt16]
  rfl

/-- An adjustment changes the level it names, and that one only. -/
theorem ipcAdjustPriorityDynamic_snd (hlevel : ipcPriority? priority = some level)
    (currentDepth : UInt16) :
    (ipcAdjustPriorityDynamic priority currentDepth g).2 =
      Function.update g level ((g level).adjusted level currentDepth) := by
  simp only [ipcAdjustPriorityDynamic, hlevel, calculateUtilization_eq hlevel,
    IpcPriorityConfig.adjusted]
  cases adjustBranch ((g level).utilization currentDepth) with
  | normal => rfl
  | high => cases level <;> rfl
  | critical => cases level <;> rfl

theorem ipcAdjustPriorityDynamic_fst_ne (hlevel : ipcPriority? priority = some level)
    (currentDepth : UInt16) : (ipcAdjustPriorityDynamic priority currentDepth g).1 ≠ -1 := by
  simp only [ipcAdjustPriorityDynamic, hlevel]
  have hone : (1 : Int) ≠ -1 := by decide
  have hzero : (0 : Int) ≠ -1 := by decide
  split
  · split
    · exact hone
    · exact hzero
  · exact hone
  · exact hzero

/-- A reset leaves the default of the level it names, and changes that one
only. -/
theorem ipcResetPriorityConfig_of_level (hlevel : ipcPriority? priority = some level) :
    ipcResetPriorityConfig priority g =
      (0, Function.update g level (defaultPriorityConfigs level)) := by
  simp only [ipcResetPriorityConfig, hlevel]
  cases level <;> rfl

end Calls

/-- A call that names no level is refused. -/
theorem IpcPriorityConfigs.step_of_invalid (g : IpcPriorityConfigs) {call : PriorityCall}
    (h : ipcPriority? call.priority = none) : g.step call = (⟨-1, none⟩, g) := by
  cases call with
  | set priority config =>
      cases config with
      | none => rfl
      | some config =>
          simp only [step, ipcSetPriorityConfig, show ipcPriority? priority = none from h]
  | adjust priority currentDepth =>
      simp only [step, ipcAdjustPriorityDynamic, show ipcPriority? priority = none from h]
  | getDynamic priority configNull currentDepth =>
      cases configNull with
      | true => rfl
      | false =>
          simp only [step, ipcGetDynamicPriorityConfig, show ipcPriority? priority = none from h]
          rfl
  | reset priority =>
      simp only [step, ipcResetPriorityConfig, show ipcPriority? priority = none from h]

/-- A call that a level refuses changes nothing. -/
theorem IpcPriorityConfigs.step_of_refused {g : IpcPriorityConfigs} {call : PriorityCall}
    {level : IpcPriority} (hlevel : ipcPriority? call.priority = some level)
    (h : call.effect level (g level) = none) : g.step call = (⟨-1, none⟩, g) := by
  cases call with
  | set priority config =>
      cases config with
      | none => rfl
      | some config =>
          replace hlevel : ipcPriority? priority = some level := hlevel
          have hzero : config.timeoutMs = 0 ∨ config.maxQueueDepth = 0 := by
            by_contra hne
            exact Option.some_ne_none _ ((if_neg hne).symm.trans h)
          simp only [step, ipcSetPriorityConfig, hlevel, if_pos hzero]
  | adjust priority currentDepth => exact absurd h (Option.some_ne_none _)
  | getDynamic priority configNull currentDepth =>
      cases configNull with
      | true => rfl
      | false => exact absurd h (Option.some_ne_none _)
  | reset priority => exact absurd h (Option.some_ne_none _)

/-- A call that a level accepts succeeds and changes that level only. -/
theorem IpcPriorityConfigs.step_of_effect {g : IpcPriorityConfigs} {call : PriorityCall}
    {level : IpcPriority} {config : IpcPriorityConfig}
    (hlevel : ipcPriority? call.priority = some level)
    (h : call.effect level (g level) = some config) :
    (g.step call).1.result ≠ -1 ∧ (g.step call).2 = Function.update g level config := by
  cases call with
  | set priority new =>
      replace hlevel : ipcPriority? priority = some level := hlevel
      obtain ⟨rfl, htimeout, hdepth⟩ := PriorityCall.effect_set_eq_some_iff.mp h
      simp [step, ipcSetPriorityConfig, hlevel, htimeout, hdepth]
  | adjust priority currentDepth =>
      obtain rfl := PriorityCall.effect_adjust_eq_some_iff.mp h
      exact ⟨ipcAdjustPriorityDynamic_fst_ne hlevel currentDepth,
        ipcAdjustPriorityDynamic_snd hlevel currentDepth⟩
  | getDynamic priority configNull currentDepth =>
      replace hlevel : ipcPriority? priority = some level := hlevel
      obtain ⟨rfl, rfl⟩ := PriorityCall.effect_getDynamic_eq_some_iff.mp h
      simp [step, ipcGetDynamicPriorityConfig, hlevel, ipcAdjustPriorityDynamic_snd hlevel]
  | reset priority =>
      replace hlevel : ipcPriority? priority = some level := hlevel
      obtain rfl := PriorityCall.effect_reset_eq_some_iff.mp h
      simp [step, ipcResetPriorityConfig_of_level hlevel]

/-- What a call does: it is refused and changes nothing, or it succeeds and
changes the level it names only. -/
theorem IpcPriorityConfigs.step_cases (g : IpcPriorityConfigs) (call : PriorityCall) :
    g.step call = (⟨-1, none⟩, g) ∨
      ∃ level config, ipcPriority? call.priority = some level ∧
        call.effect level (g level) = some config ∧
        (g.step call).1.result ≠ -1 ∧ (g.step call).2 = Function.update g level config := by
  cases hlevel : ipcPriority? call.priority with
  | none => exact .inl (g.step_of_invalid hlevel)
  | some level =>
      cases heffect : call.effect level (g level) with
      | none => exact .inl (step_of_refused hlevel heffect)
      | some config => exact .inr ⟨level, config, rfl, heffect, step_of_effect hlevel heffect⟩

/-- Each level keeps what every call keeps of a level that accepts it. -/
theorem IpcPriorityConfigs.forall_step (Inv : IpcPriorityConfig → Prop) {g : IpcPriorityConfigs}
    {call : PriorityCall}
    (heffect : ∀ level config, ipcPriority? call.priority = some level →
      call.effect level (g level) = some config → Inv config)
    (hg : ∀ level, Inv (g level)) (level : IpcPriority) : Inv ((g.step call).2 level) := by
  obtain hsame | ⟨named, config, hnamed, hconfig, -, hnext⟩ := g.step_cases call
  · rw [hsame]
    exact hg level
  · rw [hnext]
    by_cases hlevel : level = named
    · rw [hlevel, Function.update_self]
      exact heffect named config hnamed hconfig
    · rw [Function.update_of_ne hlevel]
      exact hg level

end AutoMlos
