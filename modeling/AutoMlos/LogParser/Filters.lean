import AutoMlos.LogParser.Statistics

/-!
# AutoMlos.LogParser.Filters

Which records the module filters let through
(`log_parser_process_file_ex`, the filtering step).

Levels are numbered from `EMERGENCY` down to `DEBUG`, the more severe the
smaller, and a filter is to keep its level and what is more severe
(`-m SYSTEM:ERROR`: system errors only).  The code compares the other way
round, so it keeps the level of the filter and what is less severe.
-/

namespace AutoMlos

open Lib

/-! ## records -/

/-- A record validates by its checksum and its level. -/
theorem validates_toBytes_iff (e : LogEntryBinary) :
    Validates e.toBytes ↔ sum16 e.payloadBytes = e.checksum ∧ e.level.toNat < 4 := by
  have hpayload : e.toBytes.take 18 = e.payloadBytes := by
    rw [LogEntryBinary.toBytes, List.take_left' e.length_payloadBytes]
  rw [validates_iff, ChecksumRight, LevelInRange, LogEntryBinary.ofBytes_toBytes, hpayload]

/-- The most severe record with the content of another. -/
def LogEntryBinary.asEmergency (e : LogEntryBinary) : LogEntryBinary :=
  let e := { e with level := logLevelEmergency }
  { e with checksum := sum16 e.payloadBytes }

theorem validates_asEmergency (e : LogEntryBinary) : Validates e.asEmergency.toBytes :=
  (validates_toBytes_iff _).mpr ⟨rfl, show logLevelEmergency.toNat < 4 by decide⟩

/-! ## output -/

section Output

variable (db : LogDatabases) (format : OutputFormat) (colorMode : ColorMode)
variable (logFormat : LogFormat) (filters : List ModuleFilter)

/-- The output step writes something for the record. -/
def OutputsRecord (e : LogEntryBinary) : Prop :=
  logParserRenderEx db format colorMode logFormat filters e ≠ .ok []

variable {db format colorMode logFormat filters} {e : LogEntryBinary}

/-- A smart line has at least its line break. -/
theorem smartLine_ne_nil : logParserFormatEntrySmart db colorMode logFormat e ≠ .ok [] := by
  intro h
  obtain ⟨message, -, hline⟩ := Outcome.bind_eq_ok h
  have hend := congrArg List.length (Outcome.ok.inj hline)
  simp [asciiBytes] at hend

theorem plainLine_ne_nil : logParserPlainLine db e ≠ .ok [] := by
  intro h
  have hbracket := head?_plainLine h
  contradiction

theorem outputsRecord_iff :
    OutputsRecord db format colorMode logFormat filters e ↔
      logParserShouldOutput filters e = true := by
  rw [OutputsRecord, logParserRenderEx]
  split
  · next hshown =>
    refine iff_of_true ?_ hshown
    split
    · exact smartLine_ne_nil
    · exact plainLine_ne_nil
  · next hhidden => exact iff_of_false (not_not_intro rfl) hhidden

end Output

/-! ## filters -/

/-- A filter of the list names the tag of a record, with a level that satisfies
`p`. -/
def Names (filters : List ModuleFilter) (e : LogEntryBinary) (p : Nat → Prop) : Prop :=
  ∃ filter ∈ filters, filter.tagId = e.tagId ∧ p filter.minLevel

/-- What the code keeps: the level of a filter, and the ones below it. -/
theorem logParserShouldOutput_iff {filters : List ModuleFilter} (h : filters ≠ [])
    (e : LogEntryBinary) :
    logParserShouldOutput filters e = true ↔ Names filters e (· ≤ e.level.toNat) := by
  simp [logParserShouldOutput, Names, h]

/-- What a list of filters promises of a record: it is output if and only if a
filter selects its level or a less severe one, and then so is every valid
record of the same module that is more severe. -/
structure KeepsSelected (outputs : LogEntryBinary → Prop) (filters : List ModuleFilter)
    (e : LogEntryBinary) : Prop where
  selected : outputs e ↔ Names filters e (e.level.toNat ≤ ·)
  severe : outputs e → ∀ e', Validates e'.toBytes → e'.tagId = e.tagId →
    e'.level.toNat < e.level.toNat → outputs e'

/-- The filters keep what is selected if and only if none of them names the tag
of the record, or one with the tag has the level `EMERGENCY` and one with the
tag has the level of the record or a less severe one. -/
theorem filters_keep_selected_iff (db : LogDatabases) (format : OutputFormat)
    (colorMode : ColorMode) (logFormat : LogFormat) {filters : List ModuleFilter}
    (hfilters : filters ≠ []) (e : LogEntryBinary) :
    KeepsSelected (OutputsRecord db format colorMode logFormat filters) filters e ↔
      (∀ filter ∈ filters, filter.tagId ≠ e.tagId) ∨
      (∃ filter ∈ filters, filter.tagId = e.tagId ∧ filter.minLevel = 0) ∧
        ∃ filter ∈ filters, filter.tagId = e.tagId ∧ e.level.toNat ≤ filter.minLevel := by
  have houtputs (e : LogEntryBinary) :
      OutputsRecord db format colorMode logFormat filters e ↔
        Names filters e (· ≤ e.level.toNat) :=
    outputsRecord_iff.trans (logParserShouldOutput_iff hfilters e)
  constructor
  · intro h
    by_cases hnamed : ∃ filter ∈ filters, filter.tagId = e.tagId
    · obtain ⟨filter, hmem, htag⟩ := hnamed
      have hshown : OutputsRecord db format colorMode logFormat filters e := by
        rcases Nat.le_total filter.minLevel e.level.toNat with hle | hle
        · exact (houtputs e).mpr ⟨filter, hmem, htag, hle⟩
        · exact h.selected.mpr ⟨filter, hmem, htag, hle⟩
      refine .inr ⟨?_, h.selected.mp hshown⟩
      have hemergency : OutputsRecord db format colorMode logFormat filters e.asEmergency ∨
          e.level.toNat = 0 := by
        rcases Nat.eq_zero_or_pos e.level.toNat with hzero | hpos
        · exact .inr hzero
        · exact .inl (h.severe hshown _ (validates_asEmergency e) rfl hpos)
      rcases hemergency with hemergency | hzero
      · obtain ⟨filter, hmem, htag, hle⟩ := (houtputs _).mp hemergency
        exact ⟨filter, hmem, htag, Nat.le_zero.mp hle⟩
      · obtain ⟨filter, hmem, htag, hle⟩ := (houtputs e).mp hshown
        exact ⟨filter, hmem, htag, Nat.le_zero.mp (hzero ▸ hle)⟩
    · exact .inl fun filter hmem htag => hnamed ⟨filter, hmem, htag⟩
  · rintro (hunnamed | ⟨⟨first, hfirst, htag, hzero⟩, hselected⟩)
    · have hnone (p : Nat → Prop) : ¬ Names filters e p := by
        rintro ⟨filter, hmem, htag, -⟩
        exact hunnamed filter hmem htag
      have hhidden : ¬ OutputsRecord db format colorMode logFormat filters e :=
        fun h => hnone _ ((houtputs e).mp h)
      exact ⟨iff_of_false hhidden (hnone _), fun h => absurd h hhidden⟩
    · have hall (e' : LogEntryBinary) (htag' : e'.tagId = e.tagId) :
          OutputsRecord db format colorMode logFormat filters e' :=
        (houtputs e').mpr ⟨first, hfirst, htag.trans htag'.symm, hzero ▸ Nat.zero_le _⟩
      exact ⟨iff_of_true (hall e rfl) hselected, fun _ e' _ htag' _ => hall e' htag'⟩

/-- The filter `-m SYSTEM:ERROR`. -/
def systemErrors : ModuleFilter := ⟨0, 1⟩

/-- The filters `-m SYSTEM:EMERGENCY` and `-m SYSTEM:DEBUG`. -/
def systemAll : List ModuleFilter := [⟨0, 0⟩, ⟨0, 3⟩]

/-- A record of the system with the level `INFO`, by the filter and by the two. -/
theorem filters_keep_selected_iff_systemErrors :
    (KeepsSelected (OutputsRecord ⟨[], []⟩ .text .minimal .smart [systemErrors]) [systemErrors]
        (.ofBytes oneRecord) ↔
      (∀ filter ∈ [systemErrors], filter.tagId ≠ 0) ∨
      (∃ filter ∈ [systemErrors], filter.tagId = 0 ∧ filter.minLevel = 0) ∧
        ∃ filter ∈ [systemErrors], filter.tagId = 0 ∧ 2 ≤ filter.minLevel) ∧
    (KeepsSelected (OutputsRecord ⟨[], []⟩ .text .minimal .smart systemAll) systemAll
        (.ofBytes oneRecord) ↔
      (∀ filter ∈ systemAll, filter.tagId ≠ 0) ∨
      (∃ filter ∈ systemAll, filter.tagId = 0 ∧ filter.minLevel = 0) ∧
        ∃ filter ∈ systemAll, filter.tagId = 0 ∧ 2 ≤ filter.minLevel) :=
  ⟨filters_keep_selected_iff ⟨[], []⟩ .text .minimal .smart (by decide) (.ofBytes oneRecord),
    filters_keep_selected_iff ⟨[], []⟩ .text .minimal .smart (by decide) (.ofBytes oneRecord)⟩

/-- The two filters meet the condition, so they keep what they select. -/
example : (∃ filter ∈ systemAll, filter.tagId = 0 ∧ filter.minLevel = 0) ∧
    ∃ filter ∈ systemAll, filter.tagId = 0 ∧ 2 ≤ filter.minLevel := by decide

/-- The one filter lets through what is no error, that record. -/
theorem filters_keep_unselected :
    ¬ ∀ (db : LogDatabases) (format : OutputFormat) (colorMode : ColorMode)
      (logFormat : LogFormat) (filters : List ModuleFilter) (e : LogEntryBinary),
      filters ≠ [] → Validates e.toBytes →
        KeepsSelected (OutputsRecord db format colorMode logFormat filters) filters e := by
  intro h
  have hkept := h ⟨[], []⟩ .text .minimal .smart [systemErrors] (.ofBytes oneRecord) (by simp)
    (by decide)
  have hshown := hkept.selected.mp (outputsRecord_iff.mpr (by decide))
  obtain ⟨filter, hmem, -, hle⟩ := hshown
  rw [List.mem_singleton.mp hmem] at hle
  exact absurd hle (by decide)

end AutoMlos
