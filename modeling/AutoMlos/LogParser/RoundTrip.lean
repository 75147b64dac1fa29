import AutoMlos.Lib.Records
import AutoMlos.LogClient.Accounting
import AutoMlos.LogParser

/-!
# AutoMlos.LogParser.RoundTrip

What the log parser makes of a file (`log_parser_process_file`).

A round of the loop adds to the run what the record contributes on its own
(`logParserProcessRecord_eq`), so a run over a file adds the contributions of
its records in order, and a change within a record changes the contribution of
that record only.  Every entry that `log_create_entry` makes validates, and
the parser prints the entries it was given.
-/

namespace AutoMlos

open Lib

/-! ## contributions -/

namespace ParserStats

/-- Two counts together. -/
def add (s t : ParserStats) : ParserStats where
  totalEntriesParsed := s.totalEntriesParsed + t.totalEntriesParsed
  validEntries := s.validEntries + t.validEntries
  corruptedEntries := s.corruptedEntries + t.corruptedEntries
  unknownMessages := s.unknownMessages + t.unknownMessages

instance : Add ParserStats := ⟨add⟩

theorem add_def (s t : ParserStats) : s + t = s.add t := rfl

theorem zero_add (s : ParserStats) : zero + s = s := by
  simp [add_def, add, zero]

end ParserStats

/-- A run followed by what comes after it. -/
def ParserRun.append (run next : ParserRun) : ParserRun where
  output := run.output ++ next.output
  stats := run.stats + next.stats
  rendered := run.rendered ++ next.rendered

/-- The result of a run over a whole file. -/
def ParserRun.toResult (run : ParserRun) : ParserResult where
  result := 0
  output := some run.output
  stats := run.stats
  rendered := run.rendered

theorem ParserRun.start_zero_append (run : ParserRun) : (start .zero).append run = run := by
  rw [append, start, ParserStats.zero_add, List.nil_append, List.nil_append]

/-- What validation adds to the statistics does not depend on them. -/
theorem logParserValidateEntry_eq (data : List UInt8) (stats : ParserStats) :
    logParserValidateEntry (some data) LogEntryBinary.size stats =
      ((logParserValidateEntry (some data) LogEntryBinary.size .zero).1,
        stats + (logParserValidateEntry (some data) LogEntryBinary.size .zero).2) := by
  simp only [logParserValidateEntry]
  split_ifs <;> simp [ParserStats.add_def, ParserStats.add, ParserStats.zero]

/-- The record validates. -/
def Validates (record : List UInt8) : Prop :=
  (logParserValidateEntry (some record) LogEntryBinary.size .zero).1 = 0

instance (record : List UInt8) : Decidable (Validates record) :=
  inferInstanceAs (Decidable (_ = _))

/-- The entries of a file that reach the output step. -/
def validEntries (file : List UInt8) : List LogEntryBinary :=
  ((records 20 file).filter (Validates ·)).map .ofBytes

theorem mem_validEntries {file record : List UInt8} (h : record ∈ records 20 file)
    (hvalid : Validates record) : .ofBytes record ∈ validEntries file :=
  List.mem_map_of_mem (List.mem_filter.mpr ⟨h, decide_eq_true hvalid⟩)

theorem validEntries_of_le {file : List UInt8} (h : 20 ≤ file.length) :
    validEntries file =
      ([file.take 20].filter (Validates ·)).map .ofBytes ++ validEntries (file.drop 20) := by
  rw [validEntries, records_of_le (by decide) h, ← List.singleton_append, List.filter_append,
    List.map_append, validEntries]

theorem validEntries_drop_subset {file : List UInt8} (h : 20 ≤ file.length) :
    validEntries (file.drop 20) ⊆ validEntries file := by
  rw [validEntries_of_le h]
  exact List.subset_append_right _ _

section Contribution

variable (text : LogEntryBinary → List UInt8)

/-- What a record adds to a run: it is counted, and printed if it validates. -/
def contribution (record : List UInt8) : ParserRun :=
  let entry := LogEntryBinary.ofBytes record
  let stats := (logParserValidateEntry (some record) LogEntryBinary.size .zero).2
  if Validates record then
    { output := text entry
      stats := ⟨1, 1, 0, 0⟩ + stats
      rendered := [entry] }
  else
    { output := []
      stats := ⟨1, 0, 0, 0⟩ + stats
      rendered := [] }

variable {text} {render : LogEntryBinary → Outcome (List UInt8)}

/-- **One round of the loop** adds the contribution of the record. -/
theorem logParserProcessRecord_eq {record : List UInt8}
    (h : Validates record → render (.ofBytes record) = .ok (text (.ofBytes record)))
    (run : ParserRun) :
    logParserProcessRecord render record run = .ok (run.append (contribution text record)) := by
  simp only [logParserProcessRecord]
  rw [logParserValidateEntry_eq, contribution]
  by_cases hvalid : Validates record
  · have hresult : (logParserValidateEntry (some record) LogEntryBinary.size .zero).1 = 0 := hvalid
    simp only [if_pos hvalid, if_pos hresult, h hvalid, Outcome.ok_bind, Outcome.pure_eq_ok,
      ParserRun.append, ParserStats.add_def, ParserStats.add, UInt32.zero_add]
    ac_rfl
  · have hresult : (logParserValidateEntry (some record) LogEntryBinary.size .zero).1 ≠ 0 := hvalid
    simp only [if_neg hvalid, if_neg hresult, ParserRun.append, ParserStats.add_def,
      ParserStats.add, UInt32.zero_add, UInt32.add_assoc, List.append_nil, Outcome.pure_eq_ok]

/-- **The loop** adds the contributions of the records in file order, if what
validates can be printed. -/
theorem logParserLoop_eq {fuel : Nat} {input : List UInt8} (hfuel : input.length < fuel)
    (h : ∀ entry ∈ validEntries input, render entry = .ok (text entry)) (run : ParserRun) :
    logParserLoop render fuel input run =
      .ok (((records 20 input).map (contribution text)).foldl ParserRun.append run) := by
  induction fuel generalizing input run with
  | zero => omega
  | succ fuel ih =>
      rw [logParserLoop, LogEntryBinary.size]
      by_cases hmore : 20 ≤ input.length
      · have hrest : (input.drop 20).length < fuel := by
          rw [List.length_drop]
          omega
        have hrecords := records_of_le (by decide) hmore
        have hfirst : Validates (input.take 20) → .ofBytes (input.take 20) ∈ validEntries input :=
          mem_validEntries (by rw [hrecords]; exact List.mem_cons_self)
        have hlater := validEntries_drop_subset hmore
        rw [if_pos hmore, logParserProcessRecord_eq (fun hvalid => h _ (hfirst hvalid)),
          Outcome.ok_bind, ih hrest fun entry he => h entry (hlater he), hrecords, List.map_cons,
          List.foldl_cons]
      · rw [if_neg hmore, records_of_lt (Nat.lt_of_not_le hmore)]
        rfl

/-- So a file is processed to the end. -/
theorem logParserProcess_eq {file : List UInt8}
    (h : ∀ entry ∈ validEntries file, render entry = .ok (text entry)) (stats : ParserStats) :
    logParserProcess render (some file) true stats =
      .ok (((records 20 file).map (contribution text)).foldl ParserRun.append
        (.start stats)).toResult := by
  rw [logParserProcess, logParserLoop_eq (Nat.lt_succ_self _) h]
  rfl

/-- A record that is the whole file gives its contribution. -/
theorem logParserProcess_record (h : ∀ entry, render entry = .ok (text entry))
    {record : List UInt8} (hlength : record.length = 20) :
    logParserProcess render (some record) true .zero =
      .ok (contribution text record).toResult := by
  have hrecords : records 20 record = [record] := by
    rw [records_of_le (by decide) hlength.ge, List.take_of_length_le hlength.le,
      List.drop_of_length_le hlength.le, records_of_lt (by decide)]
  rw [logParserProcess_eq fun entry _ => h entry, hrecords, List.map_singleton, List.foldl_cons,
    List.foldl_nil, ParserRun.start_zero_append]

/-- A record that does not validate prints nothing. -/
theorem output_contribution_of_invalid {record : List UInt8} (h : ¬ Validates record) :
    (contribution text record).output = [] := by
  rw [contribution, if_neg h]

end Contribution

/-! ## a run as a whole -/

section Fold

variable (runs : List ParserRun) (run : ParserRun)

theorem output_foldl_append :
    (runs.foldl ParserRun.append run).output = run.output ++ runs.flatMap (·.output) := by
  induction runs generalizing run with
  | nil => simp
  | cons next runs ih => simp [ih, ParserRun.append]

theorem rendered_foldl_append :
    (runs.foldl ParserRun.append run).rendered = run.rendered ++ runs.flatMap (·.rendered) := by
  induction runs generalizing run with
  | nil => simp
  | cons next runs ih => simp [ih, ParserRun.append]

theorem stats_foldl_append :
    (runs.foldl ParserRun.append run).stats =
      runs.foldl (fun stats next => stats + next.stats) run.stats := by
  induction runs generalizing run with
  | nil => rfl
  | cons next runs ih => rw [List.foldl_cons, ih, List.foldl_cons, ParserRun.append]

end Fold

/-! ## created entries -/

/-- An entry `log_create_entry` makes of arguments it accepts. -/
def Created (entry : LogEntryBinary) : Prop :=
  ∃ old args sys, (logCreateEntry (some old) args sys).1.errorCode = errBaseOk ∧
    (logCreateEntry (some old) args sys).2 = some entry

/-- What the parser asks of an entry, its tag included, and a message that there
is. -/
structure Valid (entry : LogEntryBinary) : Prop where
  checksum : sum16 entry.payloadBytes = entry.checksum
  level : entry.level.toNat < logLevelCount
  tag : entry.tagId.toNat < logTagCount
  message : entry.messageId.toNat < logMsgCount

/-- An entry that is prepared has arguments in range. -/
theorem logPrepareEntry_ok {args : LogArgs} {sys : SysReadings} {entry : LogEntryBinary}
    (h : logPrepareEntry args sys = .ok entry) :
    args.InRange ∧ entry = logMakeEntry args sys.pid.2 sys.time.2 := by
  rw [logPrepareEntry, logCheckArgs_eq] at h
  by_cases hargs : args.InRange
  · simp only [if_pos hargs] at h
    split at h
    · cases h
    · split at h
      · cases h
      · cases h
        exact ⟨hargs, rfl⟩
  · simp only [if_neg hargs] at h
    cases h

/-- **What `log_create_entry` makes is valid.** -/
theorem Created.valid {entry : LogEntryBinary} (h : Created entry) : Valid entry := by
  obtain ⟨old, args, sys, hok, hentry⟩ := h
  rw [logCreateEntry] at hok hentry
  obtain ⟨error, hcode, herror⟩ | hprepared := logPrepareEntry_cases args sys
  · rw [herror] at hok
    exact absurd hok hcode
  · obtain ⟨hargs, hmade⟩ := logPrepareEntry_ok hprepared
    rw [hprepared, hmade] at hentry
    cases hentry
    exact ⟨rfl, hargs.1, hargs.2.1, hargs.2.2⟩

section Created

variable {text : LogEntryBinary → List UInt8}

/-- A valid entry is counted as such and printed as it is. -/
theorem contribution_toBytes {entry : LogEntryBinary} (h : Valid entry) :
    contribution text entry.toBytes =
      { output := text entry, stats := ⟨1, 1, 0, 0⟩, rendered := [entry] } := by
  have hlevel : ¬ entry.level.toNat ≥ logLevelCount := Nat.not_le_of_lt h.level
  have htag : ¬ entry.tagId.toNat ≥ logTagCount := Nat.not_le_of_lt h.tag
  have hvalidate : logParserValidateEntry (some entry.toBytes) LogEntryBinary.size .zero =
      (0, .zero) := by
    rw [logParserValidateEntry_toBytes h.checksum, if_neg hlevel, if_neg htag]
  have hvalid : Validates entry.toBytes := congrArg Prod.fst hvalidate
  rw [contribution, if_pos hvalid, hvalidate, LogEntryBinary.ofBytes_toBytes]
  rfl

/-- The run over valid entries written one after another. -/
theorem foldl_contribution_toBytes {entries : List LogEntryBinary}
    (h : ∀ entry ∈ entries, Valid entry) (run : ParserRun) :
    (entries.map fun entry => contribution text entry.toBytes).foldl ParserRun.append run =
      { output := run.output ++ entries.flatMap text
        stats := run.stats + ⟨.ofNat entries.length, .ofNat entries.length, 0, 0⟩
        rendered := run.rendered ++ entries } := by
  induction entries generalizing run with
  | nil => simp [ParserStats.add_def, ParserStats.add]
  | cons entry entries ih =>
      obtain ⟨hentry, hentries⟩ := List.forall_mem_cons.mp h
      rw [List.map_cons, List.foldl_cons, ih hentries, contribution_toBytes hentry]
      simp [ParserRun.append, ParserStats.add_def, ParserStats.add, UInt32.ofNat_add]
      constructor <;> ac_rfl

end Created

/-! ## the text format -/

/-- Every loaded format is content with two data words. -/
def LogDatabases.Sound (db : LogDatabases) : Prop :=
  ∀ entry ∈ db.formats, ∀ data0 data1, ∃ text, printf entry.formatString [data0, data1] = .ok text

/-- The line of an entry, if it has one. -/
def plainText (db : LogDatabases) (entry : LogEntryBinary) : List UInt8 :=
  (logParserPlainLine db entry).getD []

/-- An entry has a line if the format of its message is content with its data. -/
theorem logParserRender_of_format {db : LogDatabases} {entry : LogEntryBinary}
    (h : ∀ found ∈ db.formats, found.messageId = entry.messageId →
      ∃ text, printf found.formatString [entry.data0, entry.data1] = .ok text) :
    logParserRender db .text entry = .ok (plainText db entry) := by
  have hline : ∃ text, logParserPlainLine db entry = .ok text := by
    unfold logParserPlainLine
    cases hformat : logParserGetMessageText db entry.messageId with
    | none => exact ⟨_, rfl⟩
    | some messageFormat =>
        obtain ⟨found, hfound, rfl⟩ := Option.map_eq_some_iff.mp hformat
        have hmem : found ∈ db.formats := List.mem_of_find?_eq_some hfound
        have hid : found.messageId = entry.messageId := by
          simpa using List.find?_some hfound
        obtain ⟨message, hmessage⟩ := h found hmem hid
        exact ⟨_, by simp only [hmessage, Outcome.ok_bind, Outcome.pure_eq_ok]; rfl⟩
  obtain ⟨text, htext⟩ := hline
  rw [logParserRender, if_pos rfl, plainText, htext]
  rfl

/-- With sound formats every entry has a line. -/
theorem logParserRender_text {db : LogDatabases} (h : db.Sound) (entry : LogEntryBinary) :
    logParserRender db .text entry = .ok (plainText db entry) :=
  logParserRender_of_format fun found hfound _ => h found hfound entry.data0 entry.data1

/-! ## files -/

/-- **Files are parsed record by record.**  With sound formats, each record has
a contribution, which is what it gives on its own, and prints nothing unless
the record validates.  A file gives the contributions of its records, the
consecutive pieces of 20 bytes, in file order; a change within one record
changes its contribution only.  Entries made by `log_create_entry` and written
one after another are all counted as valid, and reach the output as they are. -/
theorem log_file_round_trip {db : LogDatabases} (h : db.Sound) :
    ∃ contribution : List UInt8 → ParserRun,
      (∀ record, record.length = 20 →
        logParserProcessFile db (some record) true .text .zero =
            .ok (contribution record).toResult ∧
          (¬ Validates record → (contribution record).output = [])) ∧
      (∀ file stats, logParserProcessFile db (some file) true .text stats = .ok {
        result := 0
        output := some (((records 20 file).map contribution).flatMap (·.output))
        stats := ((records 20 file).map contribution).foldl (fun s run => s + run.stats) stats
        rendered := ((records 20 file).map contribution).flatMap (·.rendered) }) ∧
      (∀ i file file', AgreeOutside 20 i file file' →
        (records 20 file').map contribution =
          ((records 20 file).map contribution).set i (contribution (recordAt 20 i file'))) ∧
      ∀ entries, (∀ entry ∈ entries, Created entry) → ∀ stats, ∃ output,
        logParserProcessFile db (some (entries.flatMap LogEntryBinary.toBytes)) true .text stats =
          .ok {
            result := 0
            output := some output
            stats := stats + ⟨.ofNat entries.length, .ofNat entries.length, 0, 0⟩
            rendered := entries } := by
  have hrender := logParserRender_text h
  refine ⟨contribution (plainText db), fun record hlength => ⟨?_, ?_⟩, fun file stats => ?_,
    fun i file file' hagree => ?_, fun entries hcreated stats => ?_⟩
  · exact logParserProcess_record hrender hlength
  · exact output_contribution_of_invalid
  · rw [logParserProcessFile, logParserProcess_eq fun entry _ => hrender entry, ParserRun.toResult,
      output_foldl_append, stats_foldl_append, rendered_foldl_append]
    rfl
  · rw [records_of_agreeOutside hagree, List.map_set]
  · have hvalid : ∀ entry ∈ entries, Valid entry := fun entry he => (hcreated entry he).valid
    have hrecords : records 20 (entries.flatMap LogEntryBinary.toBytes) =
        entries.map LogEntryBinary.toBytes :=
      records_flatMap (by decide) fun entry _ => entry.length_toBytes
    refine ⟨entries.flatMap (plainText db), ?_⟩
    rw [logParserProcessFile, logParserProcess_eq fun entry _ => hrender entry, hrecords,
      List.map_map]
    exact congrArg (fun run => Outcome.ok run.toResult) (foldl_contribution_toBytes hvalid _)

/-- Two of the shipped formats and a tag. -/
def sampleDatabases : LogDatabases where
  formats := [⟨2, .ofAscii "Service %u ready"⟩,
    ⟨6, .ofAscii "CAN frame received: ID 0x%X, DLC %u"⟩]
  tags := [⟨0, .ofAscii "SYSTEM"⟩]

theorem sound_sampleDatabases : sampleDatabases.Sound := by
  intro entry hentry data0 data1
  obtain rfl | rfl : entry = ⟨2, .ofAscii "Service %u ready"⟩ ∨
      entry = ⟨6, .ofAscii "CAN frame received: ID 0x%X, DLC %u"⟩ := by
    simpa [sampleDatabases] using hentry
  · exact ⟨_, rfl⟩
  · exact ⟨_, rfl⟩

theorem log_file_round_trip_sampleDatabases :
    ∃ contribution : List UInt8 → ParserRun,
      (∀ record, record.length = 20 →
        logParserProcessFile sampleDatabases (some record) true .text .zero =
            .ok (contribution record).toResult ∧
          (¬ Validates record → (contribution record).output = [])) ∧
      (∀ file stats, logParserProcessFile sampleDatabases (some file) true .text stats = .ok {
        result := 0
        output := some (((records 20 file).map contribution).flatMap (·.output))
        stats := ((records 20 file).map contribution).foldl (fun s run => s + run.stats) stats
        rendered := ((records 20 file).map contribution).flatMap (·.rendered) }) ∧
      (∀ i file file', AgreeOutside 20 i file file' →
        (records 20 file').map contribution =
          ((records 20 file).map contribution).set i (contribution (recordAt 20 i file'))) ∧
      ∀ entries, (∀ entry ∈ entries, Created entry) → ∀ stats, ∃ output,
        logParserProcessFile sampleDatabases (some (entries.flatMap LogEntryBinary.toBytes)) true
            .text stats =
          .ok {
            result := 0
            output := some output
            stats := stats + ⟨.ofNat entries.length, .ofNat entries.length, 0, 0⟩
            rendered := entries } :=
  log_file_round_trip sound_sampleDatabases

end AutoMlos
