import AutoMlos.Lib.FileSystem
import AutoMlos.LogParser.CommandLine
import AutoMlos.LogParser.Loading
import AutoMlos.LogParser.Statistics
import Mathlib.Data.List.DropRight

/-!
# AutoMlos.LogParser.Main

The log parser as a program (`main`): it finds its databases next to its own
executable, reads the command line, and converts one file into another.

The two files are opened one after the other, the input first.  Opening the
output empties it, so a run that cannot open its input still loses what was in
the output file, and where both names lead to one file there is nothing left to
be read.

The program is given the target of the link to its own executable
(`/proc/self/exe`), which is `none` if it cannot be read.  What it prints is
that of `main` itself.
-/

namespace AutoMlos

open Lib

/-! ## paths -/

/-- `PATH_MAX`. -/
def pathMax : Nat := 4096

/-- `/`. -/
def pathSeparator : UInt8 := charByte '/'

/-- `dirname`: the path cut off behind its directory, or `none` where the result
is another string (`"."`). -/
def dirname (path : List UInt8) : Option (List UInt8) :=
  let entry := path.rdropWhile (· = pathSeparator)
  let directory := if entry = [] then path else entry.rdropWhile (· ≠ pathSeparator)
  if directory = [] then none
  else
    let name := directory.rdropWhile (· = pathSeparator)
    if name ≠ [] then some name
    else if directory.length = 2 then some directory
    else some [pathSeparator]

/-- `get_tool_directory`: the directory, if its result is 0. -/
def getToolDirectory (exe : Option (List UInt8)) (size : Nat) : Option CString := do
  let target ← exe
  let path := CString.ofBuffer (target.take (pathMax - 1))
  let dir ← dirname path.bytes
  if dir.length ≥ size then none
  else some (CString.ofBuffer (dir.take (size - 1)))

/-- The path of a database, as far as it fits. -/
def databasePath (toolDir : CString) (name : String) : CString :=
  CString.ofBuffer ((toolDir.bytes.take (pathMax - 1) ++ asciiBytes name).take (pathMax - 1))

example : getToolDirectory (some (asciiBytes "/opt/tools/log_parser")) pathMax =
    some (.ofAscii "/opt/tools") := by decide +kernel

/-! ## texts -/

/-- `print_usage`. -/
def printUsage (programName : CString) : List UInt8 :=
  asciiBytes "AutoMLOS Binary Log Parser\n" ++
  asciiBytes "Usage: " ++ programName.bytes ++ asciiBytes " [OPTIONS] INPUT_FILE OUTPUT_FILE\n\n" ++
  asciiBytes "Options:\n" ++
  asciiBytes "  -f, --format FORMAT    Output format (text, json, csv, binary)\n" ++
  asciiBytes "  -c, --color MODE       Color mode (never, minimal, always)\n" ++
  asciiBytes "  -s, --style STYLE      Log style (smart, fixed, minimal, verbose)\n" ++
  asciiBytes "  -m, --module TAG:LEVEL Filter by module and level (e.g., CAN:INFO)\n" ++
  asciiBytes "  -v, --verbose          Verbose output\n" ++
  asciiBytes "  -h, --help             Show this help message\n\n" ++
  asciiBytes "Examples:\n" ++
  asciiBytes "  " ++ programName.bytes ++
    asciiBytes " log.bin log.txt -f text -c minimal -s smart\n" ++
  asciiBytes "  " ++ programName.bytes ++
    asciiBytes " log.bin log.txt -f text -c never -m CAN:INFO -m UDS:ERROR\n" ++
  asciiBytes "  " ++ programName.bytes ++ asciiBytes " log.bin log.json -f json\n"

/-- The warnings of the loop over the arguments: a value of `-m` that it has
taken is no filter. -/
def filterWarnings : List CString → List ArgumentRole → List UInt8
  | arg :: value :: args, .option :: .value :: roles =>
      (if parserOption? arg = some .module ∧ parseModuleFilter value = none then
        asciiBytes "Warning: Invalid module filter format: " ++ value.bytes ++ asciiBytes "\n"
      else []) ++ filterWarnings args roles
  | _ :: args, _ :: roles => filterWarnings args roles
  | _, _ => []

/-- What `main` prints before it initialises the parser, if it is verbose. -/
def verboseSettings (toolDir formatDbPath tagDbPath : CString) (vars : ParserArguments) :
    List UInt8 :=
  asciiBytes "Initializing parser...\n" ++
  asciiBytes "Tool directory: " ++ toolDir.bytes ++ asciiBytes "\n" ++
  asciiBytes "Format database: " ++ formatDbPath.bytes ++ asciiBytes "\n" ++
  asciiBytes "Tag database: " ++ tagDbPath.bytes ++ asciiBytes "\n" ++
  asciiBytes "Color mode: " ++
    (match vars.colorMode with
      | .never => asciiBytes "never"
      | .minimal => asciiBytes "minimal"
      | .always => asciiBytes "always") ++ asciiBytes "\n" ++
  asciiBytes "Log format: " ++
    (match vars.logFormat with
      | .smart => asciiBytes "smart"
      | .fixed => asciiBytes "fixed"
      | .minimal => asciiBytes "minimal"
      | .verbose => asciiBytes "verbose") ++ asciiBytes "\n" ++
  if vars.filters.length > 0 then
    asciiBytes "Module filters: " ++ decimal vars.filters.length ++ asciiBytes " active\n"
  else []

/-- What `main` prints if the databases are not loaded. -/
def databaseErrors (toolDir formatDbPath tagDbPath : CString) : List UInt8 :=
  asciiBytes "Error: Failed to initialize parser with database files\n" ++
  asciiBytes "Please ensure the tool and database files are in the same directory:\n" ++
  asciiBytes "  Tool: " ++ toolDir.bytes ++ asciiBytes "/log_parser\n" ++
  asciiBytes "  Format DB: " ++ formatDbPath.bytes ++ asciiBytes "\n" ++
  asciiBytes "  Tag DB: " ++ tagDbPath.bytes ++ asciiBytes "\n"

/-- The statistics that `main` prints (`log_parser_get_stats`). -/
def printStats (stats : ParserStats) : List UInt8 :=
  asciiBytes "Processing completed successfully:\n" ++
  asciiBytes "  Total entries parsed: " ++ decimal stats.totalEntriesParsed.toNat ++
    asciiBytes "\n" ++
  asciiBytes "  Valid entries: " ++ decimal stats.validEntries.toNat ++ asciiBytes "\n" ++
  asciiBytes "  Corrupted entries: " ++ decimal stats.corruptedEntries.toNat ++
    asciiBytes "\n" ++
  asciiBytes "  Unknown messages: " ++ decimal stats.unknownMessages.toNat ++ asciiBytes "\n"

/-! ## the program -/

/-- The entries that a table holds. -/
def LogTable.entries {ε : Type} (table : LogTable ε) : List ε :=
  ((table.slots.getD []).take table.size.toNat).filterMap id

/-- The databases in memory. -/
def ParserStatics.databases (statics : ParserStatics) : LogDatabases where
  formats := statics.formats.entries.map FormatSlot.toEntry
  tags := statics.tags.entries.map TagSlot.toEntry

/-- The statics before `log_parser_init`. -/
def ParserStatics.initial : ParserStatics where
  formats := { slots := none, size := 0 }
  tags := { slots := none, size := 0 }
  stats := .zero

/-- The options of `log_parser_process_file_ex`, if `main` takes that path. -/
def ParserArguments.extended (vars : ParserArguments) :
    Option (ColorMode × LogFormat × List ModuleFilter) :=
  if vars.filters.length > 0 ∨ vars.colorMode ≠ .minimal ∨ vars.logFormat ≠ .smart then
    some (vars.colorMode, vars.logFormat, vars.filters)
  else none

/-- What a run of the program leaves. -/
structure ToolResult (File : Type) where
  exitCode : Int
  files : FileSystem CString File
  stdout : List UInt8
  stderr : List UInt8

section Program

variable {File : Type} [DecidableEq File]

/-- The files of the call that `main` makes: both are opened, and then the input
is read. -/
def openFiles (files : FileSystem CString File) (input output : CString) :
    FileSystem CString File × Option (List UInt8) × Bool :=
  let opened := files.openWrite output
  let files' := opened.getD files
  (files', if (files.read input).isSome then files'.read input else none, opened.isSome)

/-- `main`, once the databases are loaded: process the files, and print the
statistics. -/
def mainProcess (files : FileSystem CString File) (db : LogDatabases) (vars : ParserArguments)
    (input output : CString) (stdout stderr : List UInt8) : Outcome (ToolResult File) := do
  let stdout := stdout ++
    if vars.verbose then
      asciiBytes "Processing file: " ++ input.bytes ++ asciiBytes " -> " ++ output.bytes ++
        asciiBytes "\n"
    else []
  let (files, file, outputOpens) := openFiles files input output
  let call : ParserCall := ⟨file, outputOpens, vars.outputFormat, vars.extended⟩
  let r ← call.process db .zero
  let files :=
    match r.output with
    | some text => files.store output text
    | none => files
  if r.result ≠ 0 then
    return {
      exitCode := 1
      files
      stdout
      stderr := stderr ++ asciiBytes "Error: Failed to process log file\n" }
  else
    return {
      exitCode := 0
      files
      stdout := stdout ++ printStats r.stats
      stderr }

/-- `main`, once both file names are known: initialise the parser. -/
def mainConvert (files : FileSystem CString File) (toolDir : CString) (allocates : Bool)
    (vars : ParserArguments) (input output : CString) (stderr : List UInt8) :
    Outcome (ToolResult File) := do
  let formatDbPath := databasePath toolDir "/formats.db"
  let tagDbPath := databasePath toolDir "/tags.db"
  let stdout :=
    if vars.verbose then verboseSettings toolDir formatDbPath tagDbPath vars else []
  let (loaded, statics) ← logParserInit (files.read formatDbPath) (files.read tagDbPath) allocates
    .initial
  if loaded ≠ 0 then
    return {
      exitCode := 1
      files
      stdout
      stderr := stderr ++ databaseErrors toolDir formatDbPath tagDbPath }
  else mainProcess files statics.databases vars input output stdout stderr

/-- `main`. -/
def parserMain (files : FileSystem CString File) (exe : Option (List UInt8))
    (programName : CString) (args : List CString) (allocates : Bool) :
    Outcome (ToolResult File) :=
  match getToolDirectory exe pathMax with
  | none =>
      return {
        exitCode := 1
        files
        stdout := []
        stderr := asciiBytes "Error: Cannot determine tool directory\n" }
  | some toolDir =>
      let (roles, result) := parseArguments args .initial
      let stderr := filterWarnings args roles
      match result with
      | none => return { exitCode := 0, files, stdout := printUsage programName, stderr }
      | some vars =>
          match vars.inputFile, vars.outputFile with
          | some input, some output =>
              mainConvert files toolDir allocates vars input output stderr
          | _, _ =>
              return {
                exitCode := 1
                files
                stdout := printUsage programName
                stderr := stderr ++
                  asciiBytes "Error: Input and output files must be specified\n" }

end Program

/-! ## the databases in memory -/

section Tables

variable {ε δ : Type}

/-- The entries of a table that a loader has filled. -/
theorem entries_filled {room : Nat} {entries : List ε} (h : entries.length < 2 ^ 32) :
    LogTable.entries ⟨some (filledSlots room entries), UInt32.ofNat entries.length⟩ = entries := by
  have hsize : (UInt32.ofNat entries.length).toNat = (entries.map some).length := by
    rw [UInt32.toNat_ofNat', Nat.mod_eq_of_lt h, List.length_map]
  rw [LogTable.entries, Option.getD_some, hsize, filledSlots, List.take_left, List.filterMap_map]
  exact List.filterMap_some

/-- What a loader is to load: nothing if the file cannot be opened, if no line is
counted, in 32 bits, or if there is no memory. -/
def databaseEntries (fields : CString → Option δ) (file : Option (List UInt8))
    (allocates : Bool) : Option (List δ) := do
  let file ← file
  if allocates ∧ countedLines file % 2 ^ 32 ≠ 0 then some (fileEntries fields file) else none

/-- **A loader that returns** has loaded that if its result is 0, and otherwise
there was nothing to be loaded. -/
theorem ParsesLines.load_returns {parseLine : CString → Outcome (Option ε)} {toEntry : ε → δ}
    {fields : CString → Option δ} {ends : ε → Prop}
    (hparse : ParsesLines parseLine toEntry fields ends) {file : Option (List UInt8)}
    {allocates : Bool} {table table' : LogTable ε} {result : Int}
    (h : loadDatabase parseLine file allocates table = .ok (result, table')) :
    databaseEntries fields file allocates =
      if result = 0 then some (table'.entries.map toEntry) else none := by
  rcases file with _ | file
  · cases h
    rfl
  · cases allocates with
    | false =>
        rw [loadDatabase, countLines_eq, Outcome.ok_bind] at h
        split at h
        · cases h
          rfl
        · cases h
          rfl
    | true =>
        rw [loadDatabase_eq hparse.eq_slotOf hparse.one_lt] at h
        by_cases hnone : countedLines file % 2 ^ 32 = 0
        · rw [if_pos hnone] at h
          cases h
          exact if_neg fun hloads => hloads.2 hnone
        · rw [if_neg hnone] at h
          split at h
          · next hroom =>
            cases h
            have hlt : (fileEntries (slotOf parseLine) file).length < 2 ^ 32 :=
              Nat.lt_of_le_of_lt hroom (Nat.mod_lt _ (by decide))
            rw [if_pos rfl, entries_filled hlt, map_fileEntries hparse.map_slotOf]
            exact if_pos ⟨rfl, hnone⟩
          · contradiction

/-- A loader returns where the lines do not come round in their count. -/
theorem ParsesLines.exists_load {parseLine : CString → Outcome (Option ε)} {toEntry : ε → δ}
    {fields : CString → Option δ} {ends : ε → Prop}
    (hparse : ParsesLines parseLine toEntry fields ends) {file : Option (List UInt8)}
    (hlt : ∀ text, file = some text → countedLines text < 2 ^ 32) (allocates : Bool)
    (table : LogTable ε) : ∃ loaded, loadDatabase parseLine file allocates table = .ok loaded := by
  rcases file with _ | file
  · exact ⟨_, rfl⟩
  · cases allocates with
    | false =>
        rw [loadDatabase, countLines_eq, Outcome.ok_bind]
        split
        · exact ⟨_, rfl⟩
        · exact ⟨_, rfl⟩
    | true =>
        obtain ⟨-, hload⟩ | ⟨-, -, loaded, hload, -⟩ | ⟨-, hroom, -⟩ := hparse.load_cases file table
        · exact ⟨_, hload⟩
        · exact ⟨_, hload⟩
        · exact absurd (hparse.length_le (hlt file rfl)) hroom

end Tables

/-- The databases that `log_parser_init` is to load. -/
def loadedDatabases (formatFile tagFile : Option (List UInt8)) (allocates : Bool) :
    Option LogDatabases := do
  let formats ← databaseEntries formatFields formatFile allocates
  let tags ← databaseEntries tagFields tagFile allocates
  return { formats, tags }

/-- **Initialisation that returns** has loaded them if its result is 0, and
otherwise there were none to be loaded. -/
theorem logParserInit_returns {formatFile tagFile : Option (List UInt8)} {allocates : Bool}
    {statics statics' : ParserStatics} {result : Int}
    (h : logParserInit formatFile tagFile allocates statics = .ok (result, statics')) :
    loadedDatabases formatFile tagFile allocates =
      if result = 0 then some statics'.databases else none := by
  obtain ⟨⟨formatLoaded, formats⟩, hformats, hrest⟩ := Outcome.bind_eq_ok h
  obtain ⟨⟨tagLoaded, tags⟩, htags, hreturn⟩ := Outcome.bind_eq_ok hrest
  cases hreturn
  rw [loadedDatabases, parsesLines_format.load_returns hformats, parsesLines_tag.load_returns htags]
  by_cases hformat : formatLoaded = 0
  · by_cases htag : tagLoaded = 0
    · simp [hformat, htag, ParserStatics.databases]
    · simp [hformat, htag]
  · simp [hformat]

/-- Initialisation returns where the lines do not come round in their count. -/
theorem exists_logParserInit {formatFile tagFile : Option (List UInt8)}
    (hformat : ∀ file, formatFile = some file → countedLines file < 2 ^ 32)
    (htag : ∀ file, tagFile = some file → countedLines file < 2 ^ 32) (allocates : Bool)
    (statics : ParserStatics) :
    ∃ result statics', logParserInit formatFile tagFile allocates statics =
      .ok (result, statics') := by
  obtain ⟨⟨formatLoaded, formats⟩, hformats⟩ :=
    parsesLines_format.exists_load hformat allocates statics.formats
  obtain ⟨⟨tagLoaded, tags⟩, htags⟩ := parsesLines_tag.exists_load htag allocates statics.tags
  rw [logParserInit, loadFormatDatabase, loadTagDatabase, hformats, Outcome.ok_bind, htags]
  exact ⟨_, _, rfl⟩

end AutoMlos
