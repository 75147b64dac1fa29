import AutoMlos.Lib.Printf
import AutoMlos.LogCommon

/-!
# AutoMlos.LogParser

The offline log parser (`tools/log_parser/log_parser.c`): it reads a file of
20-byte records, checks each of them and prints those that pass.

The two databases are lists in file order (`LogParser.Databases` has how they
are loaded).  A file that is read is its bytes, or `none` if it cannot be
opened, and the output is another file.  Every write succeeds.  Next to its
output a run keeps the entries that have reached the output step.
-/

namespace AutoMlos

open Lib

/-! ## databases -/

/-- `format_string_entry_t`, as far as it is used. -/
structure FormatStringEntry where
  messageId : UInt16
  formatString : CString
  deriving DecidableEq, Repr

/-- `tag_name_entry_t`. -/
structure TagNameEntry where
  tagId : UInt8
  tagName : CString
  deriving DecidableEq, Repr

/-- `g_format_db` and `g_tag_db`. -/
structure LogDatabases where
  formats : List FormatStringEntry
  tags : List TagNameEntry
  deriving DecidableEq, Repr

/-- The name of what has none. -/
def unknownName : CString := .ofAscii "UNKNOWN"

/-- `log_parser_get_tag_name`. -/
def logParserGetTagName (db : LogDatabases) (tagId : UInt8) : CString :=
  match db.tags.find? fun tag => tag.tagId = tagId with
  | some tag => tag.tagName
  | none => unknownName

/-- `log_parser_get_message_text`. -/
def logParserGetMessageText (db : LogDatabases) (messageId : UInt16) : Option CString :=
  (db.formats.find? fun entry => entry.messageId = messageId).map (·.formatString)

/-- `log_parser_get_level_name`. -/
def logParserGetLevelName (level : Nat) : CString :=
  if level < logLevelCount then
    match level with
    | 0 => .ofAscii "EMERGENCY"
    | 1 => .ofAscii "ERROR"
    | 2 => .ofAscii "INFO"
    | _ => .ofAscii "DEBUG"
  else unknownName

/-! ## validation -/

/-- `parser_stats_t`. -/
structure ParserStats where
  totalEntriesParsed : UInt32
  validEntries : UInt32
  corruptedEntries : UInt32
  unknownMessages : UInt32
  deriving DecidableEq, Repr

/-- The statistics after `log_parser_init`. -/
def ParserStats.zero : ParserStats where
  totalEntriesParsed := 0
  validEntries := 0
  corruptedEntries := 0
  unknownMessages := 0

/-- `log_parser_validate_entry`: 0 if the entry is valid, -1 if not. -/
def logParserValidateEntry (entryData : Option (List UInt8)) (entrySize : Nat)
    (stats : ParserStats) : Int × ParserStats :=
  match entryData with
  | none => (-1, stats)
  | some data =>
      if entrySize ≠ LogEntryBinary.size then (-1, stats)
      else
        let entry := LogEntryBinary.ofBytes data
        if sum16 (data.take 18) ≠ entry.checksum then
          (-1, { stats with corruptedEntries := stats.corruptedEntries + 1 })
        else if entry.level.toNat ≥ logLevelCount then (-1, stats)
        else if entry.tagId.toNat ≥ logTagCount then
          (0, { stats with unknownMessages := stats.unknownMessages + 1 })
        else (0, stats)

/-- Of an entry whose checksum is right, the parser checks the level and counts
the tag. -/
theorem logParserValidateEntry_toBytes {e : LogEntryBinary}
    (h : sum16 e.payloadBytes = e.checksum) (stats : ParserStats) :
    logParserValidateEntry (some e.toBytes) LogEntryBinary.size stats =
      if e.level.toNat ≥ logLevelCount then (-1, stats)
      else if e.tagId.toNat ≥ logTagCount then
        (0, { stats with unknownMessages := stats.unknownMessages + 1 })
      else (0, stats) := by
  have hpayload : e.toBytes.take 18 = e.payloadBytes := by
    rw [LogEntryBinary.toBytes, List.take_left' e.length_payloadBytes]
  have hsize : ¬ LogEntryBinary.size ≠ LogEntryBinary.size := not_not_intro rfl
  simp only [logParserValidateEntry, LogEntryBinary.ofBytes_toBytes, hpayload, if_neg hsize,
    if_neg (not_not_intro h)]

/-! ## plain lines -/

/-- `output_format_t`. -/
inductive OutputFormat where
  | text
  | json
  | csv
  | binary
  deriving DecidableEq, Repr

/-- The line of an entry in the plain style:
`[timestamp] tag: message`. -/
def logParserPlainLine (db : LogDatabases) (entry : LogEntryBinary) : Outcome (List UInt8) :=
  let tagName := logParserGetTagName db entry.tagId
  let start := asciiBytes "[" ++ decimal entry.timestamp.toNat ++ asciiBytes "] " ++
    tagName.bytes ++ asciiBytes ": "
  match logParserGetMessageText db entry.messageId with
  | some messageFormat => do
      let message ← printf messageFormat [entry.data0, entry.data1]
      return start ++ message ++ asciiBytes "\n"
  | none =>
      return start ++ asciiBytes "Unknown message " ++ decimal entry.messageId.toNat ++
        asciiBytes " (data: " ++ decimal entry.data0.toNat ++ asciiBytes ", " ++
        decimal entry.data1.toNat ++ asciiBytes ")\n"

/-! ## the record loop -/

/-- The output so far, the statistics, and the entries that have reached the
output step. -/
structure ParserRun where
  output : List UInt8
  stats : ParserStats
  rendered : List LogEntryBinary
  deriving DecidableEq, Repr

/-- The start of a run. -/
def ParserRun.start (stats : ParserStats) : ParserRun where
  output := []
  stats
  rendered := []

/-- One round of the loop: count the record, validate it, and print it if it
is valid. -/
def logParserProcessRecord (render : LogEntryBinary → Outcome (List UInt8)) (record : List UInt8)
    (run : ParserRun) : Outcome ParserRun :=
  let stats := { run.stats with totalEntriesParsed := run.stats.totalEntriesParsed + 1 }
  let (result, stats) := logParserValidateEntry (some record) LogEntryBinary.size stats
  if result = 0 then do
    let stats := { stats with validEntries := stats.validEntries + 1 }
    let entry := LogEntryBinary.ofBytes record
    let text ← render entry
    return {
      output := run.output ++ text
      stats
      rendered := run.rendered ++ [entry] }
  else return { run with stats }

/-- The loop: `fread` one record after another, until less than a record is
left.  Each round reads bytes, so their number bounds the rounds. -/
def logParserLoop (render : LogEntryBinary → Outcome (List UInt8)) :
    Nat → List UInt8 → ParserRun → Outcome ParserRun
  | 0, _, _ => .outOfFuel
  | fuel + 1, input, run =>
      if LogEntryBinary.size ≤ input.length then do
        let run ← logParserProcessRecord render (input.take LogEntryBinary.size) run
        logParserLoop render fuel (input.drop LogEntryBinary.size) run
      else return run

/-- The result of a function of the parser: its value, the output file if it
could be opened, and the statistics; and the entries that have reached the
output step. -/
structure ParserResult where
  result : Int
  output : Option (List UInt8)
  stats : ParserStats
  rendered : List LogEntryBinary
  deriving DecidableEq, Repr

/-- Open both files, and process the input record by record. -/
def logParserProcess (render : LogEntryBinary → Outcome (List UInt8)) (input : Option (List UInt8))
    (outputOpens : Bool) (stats : ParserStats) : Outcome ParserResult :=
  match input, outputOpens with
  | some input, true => do
      let run ← logParserLoop render (input.length + 1) input (.start stats)
      return {
        result := 0
        output := some run.output
        stats := run.stats
        rendered := run.rendered }
  | _, _ =>
      return {
        result := -1
        output := if outputOpens then some [] else none
        stats
        rendered := [] }

/-- The output step of `log_parser_process_file`. -/
def logParserRender (db : LogDatabases) (format : OutputFormat) (entry : LogEntryBinary) :
    Outcome (List UInt8) :=
  if format = .text then logParserPlainLine db entry else return []

/-- `log_parser_process_file`. -/
def logParserProcessFile (db : LogDatabases) (input : Option (List UInt8)) (outputOpens : Bool)
    (format : OutputFormat) (stats : ParserStats) : Outcome ParserResult :=
  logParserProcess (logParserRender db format) input outputOpens stats

end AutoMlos
