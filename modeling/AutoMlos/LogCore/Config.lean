import AutoMlos.Lib.Run
import AutoMlos.LogCore

/-!
# AutoMlos.LogCore.Config

The configuration of the logging core (`log_config_validate`, `log_config_set`
and `log_config_get`).

The validator looks at the buffer capacity and the entry size, the setter only
at the number of retries.  So the setter stores what the validator refuses, and
the active configuration stays valid along a run if and only if every
configuration the setter accepts is one that the validator accepts too.
-/

namespace AutoMlos

open Lib

/-- `log_config_t`. -/
structure LogConfig where
  bufferCapacity : UInt16
  entrySize : UInt16
  ipcTimeoutMs : UInt32
  maxRetryCount : UInt8
  checksumAlgorithm : UInt16
  safetyLevel : UInt8
  deriving DecidableEq, Repr

/-- `g_log_config` before any call; `log_config_init` and `LOG_CONFIG_DEFAULT`
have the same values. -/
def LogConfig.initial : LogConfig where
  bufferCapacity := UInt16.ofNat logBufferCapacity
  entrySize := UInt16.ofNat LogEntryBinary.size
  ipcTimeoutMs := 1000
  maxRetryCount := 2
  checksumAlgorithm := 1
  safetyLevel := 2

/-- The error of the configuration functions. -/
def logConfigInvalid : SystemError :=
  systemErrorCreate errSysInvalidParam .system .medium moduleIdLogging

/-- `log_config_validate`. -/
def logConfigValidate : Option LogConfig → SystemError
  | none => logConfigInvalid
  | some config =>
      if config.bufferCapacity = 0 ∨ config.bufferCapacity > 256 then logConfigInvalid
      else if config.entrySize.toNat ≠ LogEntryBinary.size then logConfigInvalid
      else logOk

/-- `log_config_set`, on the active configuration. -/
def logConfigSet (active : LogConfig) (newConfig : Option LogConfig) : SystemError × LogConfig :=
  match newConfig with
  | none => (logConfigInvalid, active)
  | some newConfig =>
      if newConfig.maxRetryCount > 10 then (logConfigInvalid, active)
      else
        (logOk,
          { bufferCapacity := newConfig.bufferCapacity
            entrySize := newConfig.entrySize
            ipcTimeoutMs := newConfig.ipcTimeoutMs
            maxRetryCount := newConfig.maxRetryCount
            checksumAlgorithm := newConfig.checksumAlgorithm
            safetyLevel := newConfig.safetyLevel })

/-- `log_config_get`: the result, and what the pointer designates afterwards. -/
def logConfigGet (active : LogConfig) (currentConfig : Option LogConfig) :
    SystemError × Option LogConfig :=
  match currentConfig with
  | none => (logConfigInvalid, none)
  | some _ => (logOk, some active)

/-! ## the two acceptance sets -/

/-- The configurations that the validator accepts. -/
def LogConfig.Valid (config : LogConfig) : Prop :=
  1 ≤ config.bufferCapacity.toNat ∧ config.bufferCapacity.toNat ≤ 256 ∧
    config.entrySize.toNat = 20

/-- The configurations that the setter accepts. -/
def LogConfig.Settable (config : LogConfig) : Prop := config.maxRetryCount.toNat ≤ 10

instance (config : LogConfig) : Decidable config.Valid := inferInstanceAs (Decidable (_ ∧ _))

theorem LogConfig.valid_initial : LogConfig.initial.Valid := by decide

theorem logConfigInvalid_ne_ok : logConfigInvalid ≠ logOk := by decide

theorem logConfigValidate_eq_ok_iff (config : LogConfig) :
    logConfigValidate (some config) = logOk ↔ config.Valid := by
  have hcapacity : (config.bufferCapacity = 0 ∨ config.bufferCapacity > 256) ↔
      ¬ (1 ≤ config.bufferCapacity.toNat ∧ config.bufferCapacity.toNat ≤ 256) := by
    rw [← UInt16.toNat_inj, gt_iff_lt, UInt16.lt_iff_toNat_lt]
    show config.bufferCapacity.toNat = 0 ∨ 256 < config.bufferCapacity.toNat ↔ _
    omega
  simp only [logConfigValidate, LogConfig.Valid, hcapacity]
  split
  · next h => exact iff_of_false logConfigInvalid_ne_ok fun hvalid => h ⟨hvalid.1, hvalid.2.1⟩
  · next h =>
    split
    · next hsize => exact iff_of_false logConfigInvalid_ne_ok fun hvalid => hsize hvalid.2.2
    · next hsize =>
      exact iff_of_true rfl ⟨(not_not.mp h).1, (not_not.mp h).2, not_not.mp hsize⟩

/-- What a call of the setter does: it stores a configuration with few enough
retries as it is, and refuses everything else. -/
theorem logConfigSet_cases (active : LogConfig) (newConfig : Option LogConfig) :
    (∃ config, newConfig = some config ∧ config.Settable ∧
      logConfigSet active newConfig = (logOk, config)) ∨
    ((∀ config, newConfig = some config → ¬ config.Settable) ∧
      logConfigSet active newConfig = (logConfigInvalid, active)) := by
  rcases newConfig with _ | config
  · exact .inr ⟨by simp, rfl⟩
  · have hretries : config.maxRetryCount > 10 ↔ ¬ config.Settable :=
      (UInt8.lt_iff_toNat_lt).trans Nat.not_le.symm
    simp only [logConfigSet]
    split
    · next h =>
      refine .inr ⟨?_, rfl⟩
      rintro _ ⟨⟩
      exact hretries.mp h
    · next h => exact .inl ⟨config, rfl, not_not.mp (mt hretries.mpr h), rfl⟩

/-! ## runs -/

/-- The validator accepts what `log_config_get` hands out. -/
def LogConfig.HandedOutValid (active : LogConfig) : Prop :=
  ∀ place, logConfigValidate (logConfigGet active (some place)).2 = logOk

/-- What a call of the setter promises. -/
structure SetsValid (before : LogConfig) (newConfig : Option LogConfig) (error : SystemError)
    (after : LogConfig) : Prop where
  valid : after.HandedOutValid
  refused : error.errorCode ≠ errBaseOk → after = before
  stored : error.errorCode = errBaseOk → ∀ place, (logConfigGet after (some place)).2 = newConfig

theorem LogConfig.handedOutValid_iff (active : LogConfig) :
    active.HandedOutValid ↔ active.Valid := by
  rw [← logConfigValidate_eq_ok_iff]
  exact ⟨fun h => h active, fun h _ => h⟩

/-- A call on a valid configuration is right if and only if what it stores, if
anything, is valid. -/
theorem setsValid_iff {active : LogConfig} (hactive : active.Valid)
    (newConfig : Option LogConfig) :
    SetsValid active newConfig (logConfigSet active newConfig).1 (logConfigSet active newConfig).2 ↔
      ∀ config, newConfig = some config → config.Settable → config.Valid := by
  obtain ⟨config, rfl, hsettable, heq⟩ | ⟨hrefused, heq⟩ := logConfigSet_cases active newConfig
  · rw [heq]
    constructor
    · rintro h _ ⟨⟩ -
      exact (LogConfig.handedOutValid_iff config).mp h.valid
    · intro h
      exact {
        valid := (LogConfig.handedOutValid_iff config).mpr (h config rfl hsettable)
        refused := fun herror => absurd rfl herror
        stored := fun _ _ => rfl }
  · rw [heq]
    refine iff_of_true ?_ fun config hconfig hsettable => absurd hsettable (hrefused config hconfig)
    exact {
      valid := (LogConfig.handedOutValid_iff active).mpr hactive
      refused := fun _ => rfl
      stored := fun herror =>
        absurd herror (show logConfigInvalid.errorCode ≠ errBaseOk by decide) }

/-- In every run of the setter from the initial configuration, the configuration
handed out is always valid, unchanged by a call that fails and the one given
after a call that succeeds, if and only if every configuration given with at
most 10 retries has a capacity from 1 to 256 and the size of an entry. -/
theorem log_config_always_valid_iff (newConfigs : List (Option LogConfig)) :
    (LogConfig.initial.HandedOutValid ∧
      Always (total logConfigSet) SetsValid LogConfig.initial newConfigs) ↔
    ∀ config, some config ∈ newConfigs → config.maxRetryCount.toNat ≤ 10 →
      1 ≤ config.bufferCapacity.toNat ∧ config.bufferCapacity.toNat ≤ 256 ∧
        config.entrySize.toNat = 20 := by
  rw [and_iff_right ((LogConfig.handedOutValid_iff _).mpr LogConfig.valid_initial)]
  have hruns := always_total_iff_always (P := SetsValid)
    (Q := fun _ newConfig _ _ => ∀ config, newConfig = some config → config.Settable →
      config.Valid)
    (fun active newConfig hactive => ⟨setsValid_iff hactive newConfig,
      fun h => (LogConfig.handedOutValid_iff _).mp h.valid⟩)
    LogConfig.valid_initial newConfigs
  rw [hruns, always_total_iff_forall]
  constructor
  · exact fun h config hmem => h _ hmem config rfl
  · rintro h _ hmem config rfl
    exact h config hmem

/-- The setter stores a configuration without any buffer. -/
theorem log_config_set_stores_invalid :
    ¬ ∀ newConfigs : List (Option LogConfig),
      LogConfig.initial.HandedOutValid ∧
        Always (total logConfigSet) SetsValid LogConfig.initial newConfigs := by
  intro h
  have hvalid := (h [some { LogConfig.initial with bufferCapacity := 0 }]).2
  rw [always_total_cons] at hvalid
  exact absurd (hvalid.1.valid LogConfig.initial) (by decide)

end AutoMlos
