import AutoMlos.LogParser
import AutoMlos.LoggerService.Contents

/-!
# AutoMlos.LoggerService.Parsable

Whether the offline parser accepts what the logger service stores.

Both check the same checksum over the same bytes, so what decides is the
level: the service has buffers for six levels, the parser knows the four of
`log_level_t`.
-/

namespace AutoMlos

open Lib ServiceMessage

/-! ## the parser's checks -/

/-- The parser validates an entry whose checksum is right if it knows its
level. -/
theorem validate_toBytes_iff {e : LogEntryBinary}
    (h : logCalculateChecksum (some e) = e.checksum) (stats : ParserStats) :
    (logParserValidateEntry (some e.toBytes) LogEntryBinary.size stats).1 = 0 ↔
      e.level.toNat < logLevelCount := by
  rw [logParserValidateEntry_toBytes h]
  by_cases hlevel : e.level.toNat ≥ logLevelCount
  · rw [if_pos hlevel]
    exact iff_of_false (by decide : ¬ (-1 : Int) = 0) (Nat.not_lt.mpr hlevel)
  · rw [if_neg hlevel]
    refine iff_of_true ?_ (Nat.lt_of_not_le hlevel)
    split <;> rfl

/-- The levels with a name are those of `log_level_t`. -/
theorem logParserGetLevelName_ne_unknown_iff (level : Nat) :
    logParserGetLevelName level ≠ unknownName ↔ level < logLevelCount := by
  unfold logParserGetLevelName
  split
  · next hlevel =>
    refine iff_of_true ?_ hlevel
    split <;> decide
  · next hlevel => exact iff_of_false (not_not_intro rfl) hlevel

/-- The parser accepts a record and knows its level. -/
def Parsable (record : List UInt8) (level : UInt8) : Prop :=
  (logParserValidateEntry (some record) LogEntryBinary.size .zero).1 = 0 ∧
    logParserGetLevelName level.toNat ≠ unknownName

instance (record : List UInt8) (level : UInt8) : Decidable (Parsable record level) :=
  inferInstanceAs (Decidable (_ ∧ _))

/-- **An entry converted from a valid record is parsable** exactly at the
levels of the parser. -/
theorem parsable_ofLogEntry_iff {e : LogEntryBinary}
    (h : logCalculateChecksum (some e) = e.checksum) :
    Parsable (LoggerServiceEntry.ofLogEntry e).toBytes (LoggerServiceEntry.ofLogEntry e).level ↔
      e.level.toNat < logLevelCount := by
  have hlevel : (LoggerServiceEntry.ofLogEntry e).level = e.level := rfl
  rw [Parsable, toBytes_ofLogEntry h, hlevel, validate_toBytes_iff h,
    logParserGetLevelName_ne_unknown_iff, and_self_iff]

/-! ## what is stored -/

/-- Every stored entry has been converted from a valid record. -/
theorem LoggerService.Holds.mem_held {service : LoggerService} {messages : List ServiceMessage}
    (h : service.Holds messages) {level : Fin 6} {entry : LoggerServiceEntry}
    (hentry : entry ∈ (service.levelBuffer level).held) :
    ∃ e, logCalculateChecksum (some e) = e.checksum ∧ entry = .ofLogEntry e := by
  rw [(h.buffer level).held] at hentry
  obtain ⟨e, he, rfl⟩ := List.mem_map.mp (List.mem_of_mem_take hentry)
  obtain ⟨m, -, hvalid⟩ := List.mem_filterMap.mp (List.mem_of_mem_filter he)
  exact ⟨e, (validRecord_eq_some hvalid).2.1, rfl⟩

/-- **What the logger service stores can be parsed** if and only if its level
is one of the parser's: after any messages, in every level buffer. -/
theorem stored_parsable_iff (service : LoggerService) (time : SystemError × UInt64)
    (messages : List ServiceMessage) :
    ∃ replies service', run loggerServiceProcessMessage (loggerServiceInit service time).2
        messages = .ok (replies, service') ∧
      ∀ level : Fin 6, ∀ entry ∈ (service'.levelBuffer level).held,
        Parsable entry.toBytes entry.level ↔ entry.level.toNat < logLevelCount := by
  obtain ⟨service', hrun, h⟩ := run_loggerServiceProcessMessage service time messages
  refine ⟨_, service', hrun, fun level entry hentry => ?_⟩
  obtain ⟨e, hvalid, rfl⟩ := h.mem_held hentry
  exact parsable_ofLogEntry_iff hvalid

/-- The service before it is initialised. -/
def loggerServiceUninit : LoggerService where
  levelBuffers := Vector.replicate 6 loggerServiceBufferInit
  currentWriteOffset := 0
  lastFlushTime := 0
  storageAvailable := false
  serviceRunning := false
  lastStatus := ⟨0, 0, 0, 0⟩

/-- A record of level 4 whose checksum verifies. -/
def levelFourMessage : ServiceMessage where
  data := some [0, 0, 0, 0, 0, 0, 4, 0, 0, 0, 0, 0, 0, 0, 0, 0, 0, 0, 4, 0]
  size := 20
  readable := by
    intro bytes h
    cases h
    rfl

/-- The level-4 record is stored and the parser rejects it. -/
theorem stored_not_always_parsable :
    ∃ replies service', run loggerServiceProcessMessage
        (loggerServiceInit loggerServiceUninit (syscallOk, 1000)).2 [levelFourMessage] =
          .ok (replies, service') ∧
      ∃ level, ∃ entry ∈ (service'.levelBuffer level).held,
        ¬ Parsable entry.toBytes entry.level := by
  obtain ⟨service', hrun, h⟩ :=
    run_loggerServiceProcessMessage loggerServiceUninit (syscallOk, 1000) [levelFourMessage]
  have hrejected : ∃ level : Fin 6, ∃ entry ∈
      ((recordsOf [levelFourMessage] level).map LoggerServiceEntry.ofLogEntry).take 100,
      ¬ Parsable entry.toBytes entry.level := by
    decide
  obtain ⟨level, entry, hentry, hrejected⟩ := hrejected
  exact ⟨_, service', hrun, level, entry, by rwa [(h.buffer level).held], hrejected⟩

end AutoMlos
