import AutoMlos.LogParser.RoundTrip

/-!
# AutoMlos.LogParser.Extended

The extended path of the log parser (`log_parser_process_file_ex`): smart
styles, colours and filters.

`main` takes this path only if an option differs from its default, and the
plain path (`log_parser_process_file`) otherwise.  The two print different
lines: under the default options the extended path starts a line with its
timestamp or with the red of an error, the plain one with a bracket.  So the
paths agree on the files without a valid record only.
-/

namespace AutoMlos

open Lib

/-- `color_mode_t`. -/
inductive ColorMode where
  | never
  | minimal
  | always
  deriving DecidableEq, Repr

/-- `log_format_t`. -/
inductive LogFormat where
  | smart
  | fixed
  | minimal
  | verbose
  deriving DecidableEq, Repr

/-- `module_filter_t`. -/
structure ModuleFilter where
  tagId : UInt8
  minLevel : Nat
  deriving DecidableEq, Repr

def maxMessageTextLength : Nat := 128
def maxContextLength : Nat := 32
def maxKeyDataLength : Nat := 64

/-- `LOG_LEVEL_EMERGENCY`. -/
def logLevelEmergency : UInt8 := 0

/-- `COLOR_RED`. -/
def colorRed : List UInt8 := 27 :: asciiBytes "[31m"

/-- `COLOR_RESET`. -/
def colorReset : List UInt8 := 27 :: asciiBytes "[0m"

/-! ## smart lines -/

/-- `log_parser_extract_context`: the string it leaves in the buffer. -/
def logParserExtractContext (messageFormat : Option CString) (data0 : UInt32) : List UInt8 :=
  match messageFormat with
  | none => []
  | some messageFormat =>
      if messageFormat.contains (.ofAscii "session") then
        snprintfKept maxContextLength (asciiBytes "Session:" ++ decimal data0.toNat)
      else if messageFormat.contains (.ofAscii "process") ∨
          messageFormat.contains (.ofAscii "thread") then
        snprintfKept maxContextLength (asciiBytes "Process:" ++ decimal data0.toNat)
      else if messageFormat.contains (.ofAscii "user") ∨
          messageFormat.contains (.ofAscii "device") then
        snprintfKept maxContextLength (asciiBytes "User:" ++ decimal data0.toNat)
      else []

/-- `log_parser_extract_key_data`: the string it leaves in the buffer. -/
def logParserExtractKeyData (messageFormat : Option CString) (data0 data1 : UInt32) :
    List UInt8 :=
  match messageFormat with
  | none => []
  | some messageFormat =>
      if messageFormat.contains (.ofAscii "CAN") ∨ messageFormat.contains (.ofAscii "ID:") then
        snprintfKept maxKeyDataLength (asciiBytes "ID:0x" ++ hexUpper data0.toNat ++
          asciiBytes " DLC:" ++ decimal data1.toNat)
      else if messageFormat.contains (.ofAscii "UDS") ∨
          messageFormat.contains (.ofAscii "SID:") then
        snprintfKept maxKeyDataLength (asciiBytes "SID:0x" ++ hexUpper data0.toNat ++
          asciiBytes " Result:" ++
          if data1 = 0 then asciiBytes "Success" else asciiBytes "Failure")
      else if messageFormat.contains (.ofAscii "error") ∨
          messageFormat.contains (.ofAscii "code") then
        snprintfKept maxKeyDataLength (asciiBytes "ErrorCode:" ++ decimal data0.toNat)
      else if messageFormat.contains (.ofAscii "latency") ∨
          messageFormat.contains (.ofAscii "time") then
        snprintfKept maxKeyDataLength (asciiBytes "Latency:" ++ decimal data0.toNat ++
          asciiBytes "ms")
      else if data0 ≠ 0 ∨ data1 ≠ 0 then
        snprintfKept maxKeyDataLength (asciiBytes "Data:" ++ decimal data0.toNat ++
          asciiBytes "," ++ decimal data1.toNat)
      else []

/-- The message of `log_parser_format_entry_smart`, through its buffer. -/
def logParserSmartMessage (messageFormat : Option CString) (entry : LogEntryBinary) :
    Outcome (List UInt8) :=
  match messageFormat with
  | some messageFormat => do
      let message ← printf messageFormat [entry.data0, entry.data1]
      return bufferString (snprintfKept maxMessageTextLength message)
  | none => return asciiBytes "Unknown message " ++ decimal entry.messageId.toNat

/-- `log_parser_format_entry_smart`. -/
def logParserFormatEntrySmart (db : LogDatabases) (colorMode : ColorMode) (logFormat : LogFormat)
    (entry : LogEntryBinary) : Outcome (List UInt8) :=
  let tagName := (logParserGetTagName db entry.tagId).bytes
  let messageFormat := logParserGetMessageText db entry.messageId
  let levelName := (logParserGetLevelName entry.level.toNat).bytes
  let context := logParserExtractContext messageFormat entry.data0
  let keyData := logParserExtractKeyData messageFormat entry.data0 entry.data1
  let timestamp := decimal entry.timestamp.toNat
  let useColor : Bool :=
    colorMode = .minimal ∧ (entry.level = logLevelError ∨ entry.level = logLevelEmergency)
  do
    let message ← logParserSmartMessage messageFormat entry
    let body :=
      match logFormat with
      | .smart | .fixed =>
          timestamp ++ asciiBytes " | " ++ levelName ++ asciiBytes " | " ++ tagName ++
            (if context ≠ [] then asciiBytes " | " ++ context else asciiBytes " | -") ++
            asciiBytes " | " ++ message ++
            (if keyData ≠ [] then asciiBytes " | " ++ keyData else [])
      | .minimal =>
          timestamp ++ asciiBytes " | " ++ levelName ++ asciiBytes " | " ++ message
      | .verbose =>
          asciiBytes "Timestamp:" ++ timestamp ++ asciiBytes " Level:" ++ levelName ++
            asciiBytes " Module:" ++ tagName ++ asciiBytes " Process:" ++
            decimal entry.processId.toNat ++
            (if context ≠ [] then asciiBytes " Context:" ++ context else []) ++
            asciiBytes " Message:" ++ message ++
            (if keyData ≠ [] then asciiBytes " KeyData:" ++ keyData else [])
    return (if useColor then colorRed else []) ++ body ++
      (if useColor then colorReset else []) ++ asciiBytes "\n"

/-! ## the extended path -/

/-- The filters let an entry through; without filters they all do. -/
def logParserShouldOutput (filters : List ModuleFilter) (entry : LogEntryBinary) : Bool :=
  filters.isEmpty ||
    filters.any fun filter => filter.tagId = entry.tagId ∧ entry.level.toNat ≥ filter.minLevel

/-- The output step of `log_parser_process_file_ex`. -/
def logParserRenderEx (db : LogDatabases) (format : OutputFormat) (colorMode : ColorMode)
    (logFormat : LogFormat) (filters : List ModuleFilter) (entry : LogEntryBinary) :
    Outcome (List UInt8) :=
  if logParserShouldOutput filters entry then
    if format = .text then logParserFormatEntrySmart db colorMode logFormat entry
    else logParserPlainLine db entry
  else return []

/-- `log_parser_process_file_ex`; the filters are `filter_count` long, and none
for `NULL`. -/
def logParserProcessFileEx (db : LogDatabases) (input : Option (List UInt8)) (outputOpens : Bool)
    (format : OutputFormat) (colorMode : ColorMode) (logFormat : LogFormat)
    (filters : List ModuleFilter) (stats : ParserStats) : Outcome ParserResult :=
  logParserProcess (logParserRenderEx db format colorMode logFormat filters) input outputOpens
    stats

/-! ## the first character of a line -/

/-- A plain line starts with a bracket. -/
theorem head?_plainLine {db : LogDatabases} {entry : LogEntryBinary} {line : List UInt8}
    (h : logParserPlainLine db entry = .ok line) : line.head? = some 91 := by
  unfold logParserPlainLine at h
  cases hformat : logParserGetMessageText db entry.messageId with
  | none =>
      rw [hformat] at h
      cases h
      rfl
  | some messageFormat =>
      rw [hformat] at h
      obtain ⟨message, -, hline⟩ := Outcome.bind_eq_ok h
      cases hline
      rfl

/-- A smart line starts with an escape or a digit. -/
theorem head?_smartLine {db : LogDatabases} {entry : LogEntryBinary} {line : List UInt8}
    (h : logParserFormatEntrySmart db .minimal .smart entry = .ok line) :
    ∃ b, line.head? = some b ∧ b ≠ 91 := by
  obtain ⟨message, -, hline⟩ := Outcome.bind_eq_ok h
  obtain ⟨digit, hdigit, -, hle⟩ := head?_decimal entry.timestamp.toNat
  have hne : digit ≠ 91 := by
    rintro rfl
    exact absurd hle (by decide)
  cases hline
  split
  · exact ⟨27, by simp [colorRed], by decide⟩
  · exact ⟨digit, by simp [hdigit], hne⟩

/-! ## files without valid records -/

theorem validEntries_eq_nil_iff {file : List UInt8} :
    validEntries file = [] ↔ ∀ record ∈ records 20 file, ¬ Validates record := by
  simp [validEntries, List.filter_eq_nil_iff]

section Process

variable {render : LogEntryBinary → Outcome (List UInt8)}

/-- A round that returns has printed what validates. -/
theorem logParserProcessRecord_ok {record : List UInt8} {run run' : ParserRun}
    (h : logParserProcessRecord render record run = .ok run') (hvalid : Validates record) :
    ∃ line, render (.ofBytes record) = .ok line := by
  have hresult : (logParserValidateEntry (some record) LogEntryBinary.size .zero).1 = 0 := hvalid
  simp only [logParserProcessRecord] at h
  rw [logParserValidateEntry_eq, if_pos hresult] at h
  obtain ⟨line, hline, -⟩ := Outcome.bind_eq_ok h
  exact ⟨line, hline⟩

/-- A loop that returns has printed all valid entries. -/
theorem logParserLoop_ok {fuel : Nat} {input : List UInt8} {run run' : ParserRun}
    (h : logParserLoop render fuel input run = .ok run') :
    ∀ entry ∈ validEntries input, ∃ line, render entry = .ok line := by
  induction fuel generalizing input run with
  | zero => contradiction
  | succ fuel ih =>
      rw [logParserLoop, LogEntryBinary.size] at h
      by_cases hmore : 20 ≤ input.length
      · rw [if_pos hmore] at h
        obtain ⟨next, hround, hrest⟩ := Outcome.bind_eq_ok h
        intro entry hentry
        rw [validEntries_of_le hmore, List.mem_append] at hentry
        rcases hentry with hfirst | hlater
        · obtain ⟨record, hrecord, rfl⟩ := List.mem_map.mp hfirst
          obtain ⟨hmem, hvalid⟩ := List.mem_filter.mp hrecord
          rw [List.mem_singleton.mp hmem] at hvalid ⊢
          exact logParserProcessRecord_ok hround (of_decide_eq_true hvalid)
        · exact ih hrest entry hlater
      · rw [validEntries, records_of_lt (Nat.lt_of_not_le hmore)]
        simp

/-- What the records contribute to the output are the lines of the valid
entries. -/
theorem output_contributions (text : LogEntryBinary → List UInt8) (rs : List (List UInt8)) :
    (rs.map (contribution text)).flatMap (·.output) =
      ((rs.filter (Validates ·)).map LogEntryBinary.ofBytes).flatMap text := by
  induction rs with
  | nil => rfl
  | cons record rs ih =>
      by_cases hvalid : Validates record
      · simp [contribution, hvalid, ih]
      · simp [contribution, hvalid, ih]

/-- **The output of a run that returns**: the lines of the valid entries. -/
theorem logParserProcess_ok {file : List UInt8} {stats : ParserStats} {r : ParserResult}
    (h : logParserProcess render (some file) true stats = .ok r) :
    ∃ text, (∀ entry ∈ validEntries file, render entry = .ok (text entry)) ∧
      r.output = some ((validEntries file).flatMap text) := by
  have hprinted : ∀ entry ∈ validEntries file, render entry = .ok ((render entry).getD []) := by
    intro entry hentry
    obtain ⟨run, hloop, -⟩ := Outcome.bind_eq_ok h
    obtain ⟨line, hline⟩ := logParserLoop_ok hloop entry hentry
    rw [hline]
    rfl
  refine ⟨fun entry => (render entry).getD [], hprinted, ?_⟩
  rw [logParserProcess_eq hprinted] at h
  cases h
  rw [ParserRun.toResult, output_foldl_append, output_contributions]
  rfl

/-- A file without valid entries gives the same whatever is to be printed. -/
theorem logParserProcess_of_no_valid {file : List UInt8} (h : validEntries file = [])
    (stats : ParserStats) :
    logParserProcess render (some file) true stats =
      .ok (((records 20 file).map (contribution fun _ => [])).foldl ParserRun.append
        (.start stats)).toResult :=
  logParserProcess_eq (by simp [h]) stats

end Process

/-! ## the two paths -/

/-- The plain path and the extended one under the default options both return,
with the same output and the same statistics. -/
def PathsAgree (db : LogDatabases) (input : Option (List UInt8)) (outputOpens : Bool)
    (format : OutputFormat) (stats : ParserStats) : Prop :=
  ∃ r r', logParserProcessFile db input outputOpens format stats = .ok r ∧
    logParserProcessFileEx db input outputOpens format .minimal .smart [] stats = .ok r' ∧
    r.output = r'.output ∧ r.stats = r'.stats

theorem head?_flatMap_cons {α β : Type} {f : α → List β} {a : α} {b : β}
    (h : (f a).head? = some b) (l : List α) : ((a :: l).flatMap f).head? = some b := by
  rw [List.flatMap_cons, List.head?_append, h, Option.some_or]

/-- The lines of the two paths differ in their first character, or the plain
path has none. -/
theorem lines_differ {db : LogDatabases} {format : OutputFormat} {entry : LogEntryBinary}
    {entries : List LogEntryBinary} {text text' : LogEntryBinary → List UInt8}
    (h : ∀ e ∈ entry :: entries, logParserRender db format e = .ok (text e))
    (h' : ∀ e ∈ entry :: entries,
      logParserRenderEx db format .minimal .smart [] e = .ok (text' e)) :
    (entry :: entries).flatMap text ≠ (entry :: entries).flatMap text' := by
  have hfirst' := h' entry List.mem_cons_self
  have hshown : logParserShouldOutput [] entry = true := rfl
  rw [logParserRenderEx, if_pos hshown] at hfirst'
  intro heq
  by_cases hformat : format = .text
  · have hfirst := h entry List.mem_cons_self
    rw [logParserRender, if_pos hformat] at hfirst
    rw [if_pos hformat] at hfirst'
    obtain ⟨b, hhead, hne⟩ := head?_smartLine hfirst'
    have hbracket := head?_flatMap_cons (head?_plainLine hfirst) entries
    rw [heq, head?_flatMap_cons hhead entries] at hbracket
    exact hne (Option.some.inj hbracket)
  · rw [if_neg hformat] at hfirst'
    have hempty : (entry :: entries).flatMap text = [] := by
      rw [List.flatMap_eq_nil_iff]
      intro e he
      have hline := h e he
      rw [logParserRender, if_neg hformat] at hline
      exact (Outcome.ok.inj hline).symm
    have hbracket := head?_flatMap_cons (head?_plainLine hfirst') entries
    rw [← heq, hempty] at hbracket
    contradiction

/-- **The default options agree with their absence** if and only if there is
nothing to print: a file cannot be opened, or no record validates. -/
theorem default_paths_agree_iff (db : LogDatabases) (input : Option (List UInt8))
    (outputOpens : Bool) (format : OutputFormat) (stats : ParserStats) :
    PathsAgree db input outputOpens format stats ↔
      ∀ file, input = some file → outputOpens = true →
        ∀ record ∈ records 20 file, ¬ Validates record := by
  constructor
  · rintro ⟨r, r', hplain, hextended, houtput, -⟩ file rfl rfl
    obtain ⟨text, htext, hr⟩ := logParserProcess_ok hplain
    obtain ⟨text', htext', hr'⟩ := logParserProcess_ok hextended
    rw [hr, hr'] at houtput
    rw [← validEntries_eq_nil_iff]
    cases hvalid : validEntries file with
    | nil => rfl
    | cons entry entries =>
        rw [hvalid] at htext htext' houtput
        exact absurd (Option.some.inj houtput) (lines_differ htext htext')
  · intro h
    match input, outputOpens with
    | none, _ => exact ⟨_, _, rfl, rfl, rfl, rfl⟩
    | some _, false => exact ⟨_, _, rfl, rfl, rfl, rfl⟩
    | some file, true =>
        have hnone := validEntries_eq_nil_iff.mpr (h file rfl rfl)
        exact ⟨_, _, logParserProcess_of_no_valid hnone stats,
          logParserProcess_of_no_valid hnone stats, rfl, rfl⟩

/-- A file of one valid record. -/
def oneRecord : List UInt8 := [0, 0, 0, 0, 0, 0, 2, 0, 0, 0, 0, 0, 0, 0, 0, 0, 0, 0, 2, 0]

/-- It is printed in the plain style by one path and in the smart style by the
other. -/
theorem default_paths_not_always_agree :
    ¬ PathsAgree ⟨[], []⟩ (some oneRecord) true .text .zero := by
  have hplain : logParserProcessFile ⟨[], []⟩ (some oneRecord) true .text .zero = .ok {
      result := 0
      output := some (asciiBytes "[0] UNKNOWN: Unknown message 0 (data: 0, 0)\n")
      stats := ⟨1, 1, 0, 0⟩
      rendered := [.ofBytes oneRecord] } := by
    decide
  have hextended : logParserProcessFileEx ⟨[], []⟩ (some oneRecord) true .text .minimal .smart []
      .zero = .ok {
        result := 0
        output := some (asciiBytes "0 | INFO | UNKNOWN | - | Unknown message 0\n")
        stats := ⟨1, 1, 0, 0⟩
        rendered := [.ofBytes oneRecord] } := by
    decide
  rintro ⟨r, r', hr, hr', houtput, -⟩
  rw [hplain] at hr
  rw [hextended] at hr'
  cases hr
  cases hr'
  revert houtput
  decide

end AutoMlos
