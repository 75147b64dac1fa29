import AutoMlos.LogParser.Main

/-!
# AutoMlos.LogParser.Conversion

The log parser from the command line to the output file.

Stage by stage (the command line, the databases, the two files, the records) the
program follows `conversion`, what it is asked to do: whatever the arguments and
the files are, a run either leaves all files as they are, or empties the output
file and fails, or replaces it by the lines of the valid records of its input.
-/

namespace AutoMlos

open Lib

/-! ## what is asked for -/

/-- What the program is to convert, and the databases to do it with. -/
structure Conversion where
  input : CString
  output : CString
  db : LogDatabases
  deriving DecidableEq

/-- The output step of the call that `main` makes. -/
def ParserArguments.render (vars : ParserArguments) (db : LogDatabases) :
    LogEntryBinary → Outcome (List UInt8) :=
  ParserCall.render db ⟨none, false, vars.outputFormat, vars.extended⟩

section Program

variable {File : Type} [DecidableEq File]

/-- What a command line asks for: nothing, if the usage is asked for, a file name
is missing, or there are no databases in the directory of the program. -/
def conversion (files : FileSystem CString File) (exe : Option (List UInt8))
    (args : List CString) (allocates : Bool) : Option Conversion := do
  let toolDir ← getToolDirectory exe pathMax
  if .flag .help ∈ tokens args then none
  else do
    let input ← (fileArguments args)[0]?
    let output ← (fileArguments args)[1]?
    let db ← loadedDatabases (files.read (databasePath toolDir "/formats.db"))
      (files.read (databasePath toolDir "/tags.db")) allocates
    return { input, output, db }

/-- What is read of the input once the output is open. -/
def Conversion.file (c : Conversion) (files : FileSystem CString File) : List UInt8 :=
  ((files.store c.output []).read c.input).getD []

/-- What a run of the program does with its files and its exit code. -/
structure ToolRight (files : FileSystem CString File) (exe : Option (List UInt8))
    (args : List CString) (allocates : Bool) (r : ToolResult File) : Prop where
  /-- Where there is nothing to convert, no file changes; only the usage is a
  success. -/
  refused : conversion files exe args allocates = none →
    r.files = files ∧
      r.exitCode = if getToolDirectory exe pathMax ≠ none ∧ .flag .help ∈ tokens args then 0 else 1
  /-- A file that cannot be opened is a failure, which empties the output. -/
  failed : ∀ c, conversion files exe args allocates = some c →
    files.read c.input = none ∨ files.writable c.output = false →
    r.exitCode = 1 ∧ r.files = (files.openWrite c.output).getD files
  /-- Otherwise the output is what the valid records are printed as, and the
  statistics are those of all records. -/
  converted : ∀ c, conversion files exe args allocates = some c →
    files.read c.input ≠ none → files.writable c.output = true →
    r.exitCode = 0 ∧
      (∃ text, (∀ entry ∈ validEntries (c.file files),
          (requestedArguments args).render c.db entry = .ok (text entry)) ∧
        r.files = files.store c.output ((validEntries (c.file files)).flatMap text)) ∧
      printStats ((records 20 (c.file files)).foldl countRecord .zero) <:+ r.stdout

/-! ## processing -/

/-- A call whose files can both be opened. -/
theorem process_ok {db : LogDatabases} {file : List UInt8} {call : ParserCall} {r : ParserResult}
    (hinput : call.input = some file) (houtput : call.outputOpens = true)
    (h : call.process db .zero = .ok r) :
    r.result = 0 ∧ r.stats = (records 20 file).foldl countRecord .zero ∧
      ∃ text, (∀ entry ∈ validEntries file, call.render db entry = .ok (text entry)) ∧
        r.output = some ((validEntries file).flatMap text) := by
  rw [ParserCall.process_eq, hinput, houtput] at h
  obtain ⟨text, htext, houtput⟩ := logParserProcess_ok h
  rw [logParserProcess_eq htext] at h
  cases h
  exact ⟨rfl, stats_contributions text (records 20 file) .zero, text, htext, houtput⟩

/-- A call one of whose files cannot be opened. -/
theorem process_of_not_opened (db : LogDatabases) (call : ParserCall)
    (h : call.input = none ∨ call.outputOpens = false) :
    call.process db .zero = .ok {
      result := -1
      output := if call.outputOpens then some [] else none
      stats := .zero
      rendered := [] } := by
  rw [ParserCall.process_eq]
  rcases call with ⟨_ | file, outputOpens, format, extended⟩
  · rfl
  · obtain h | rfl : (some file = none) ∨ outputOpens = false := h
    · contradiction
    · rfl

variable {files : FileSystem CString File} {db : LogDatabases} {vars : ParserArguments}
variable {input output : CString} {stdout stderr : List UInt8} {r : ToolResult File}

theorem openFiles_of_opened (hinput : files.read input ≠ none)
    (houtput : files.writable output = true) :
    openFiles files input output =
      (files.store output [], some (((files.store output []).read input).getD []), true) := by
  have hkept : (files.store output []).read input =
      some (((files.store output []).read input).getD []) := by
    by_cases hsame : files.file input = files.file output
    · rw [FileSystem.read_store_of_eq hsame, Option.getD_some]
    · rw [FileSystem.read_store_of_ne hsame]
      obtain ⟨data, hdata⟩ := Option.ne_none_iff_exists'.mp hinput
      rw [hdata, Option.getD_some]
  rw [openFiles, FileSystem.openWrite, if_pos houtput, Option.getD_some,
    if_pos (Option.isSome_iff_ne_none.mpr hinput)]
  exact congrArg (fun file => (files.store output [], file, true)) hkept

/-- **Processing** files that can both be opened. -/
theorem mainProcess_converts (hinput : files.read input ≠ none)
    (houtput : files.writable output = true)
    (h : mainProcess files db vars input output stdout stderr = .ok r) :
    let file := ((files.store output []).read input).getD []
    r.exitCode = 0 ∧
      (∃ text, (∀ entry ∈ validEntries file, vars.render db entry = .ok (text entry)) ∧
        r.files = files.store output ((validEntries file).flatMap text)) ∧
      printStats ((records 20 file).foldl countRecord .zero) <:+ r.stdout := by
  rw [mainProcess, openFiles_of_opened hinput houtput] at h
  obtain ⟨p, hprocess, hreturn⟩ := Outcome.bind_eq_ok h
  obtain ⟨hresult, hstats, text, htext, hprinted⟩ := process_ok rfl rfl hprocess
  rw [hprinted, if_neg (not_not_intro hresult), hstats] at hreturn
  cases hreturn
  exact ⟨rfl, ⟨text, htext, FileSystem.store_store⟩, List.suffix_append _ _⟩

/-- It returns if the valid records can be printed. -/
theorem exists_mainProcess (hinput : files.read input ≠ none)
    (houtput : files.writable output = true)
    (hprint : ∀ entry ∈ validEntries (((files.store output []).read input).getD []),
      ∃ line, vars.render db entry = .ok line) :
    ∃ r, mainProcess files db vars input output stdout stderr = .ok r := by
  have hprinted : ∀ entry ∈ validEntries (((files.store output []).read input).getD []),
      vars.render db entry = .ok ((vars.render db entry).getD []) := by
    intro entry hentry
    obtain ⟨line, hline⟩ := hprint entry hentry
    rw [hline]
    rfl
  have hprocess :=
    (ParserCall.process_eq db .zero ⟨_, true, vars.outputFormat, vars.extended⟩).trans
      (logParserProcess_eq hprinted .zero)
  rw [mainProcess, openFiles_of_opened hinput houtput]
  simp only [hprocess, Outcome.ok_bind]
  exact ⟨_, rfl⟩

/-- **Processing** files one of which cannot be opened. -/
theorem mainProcess_fails (hclosed : files.read input = none ∨ files.writable output = false) :
    ∃ r, mainProcess files db vars input output stdout stderr = .ok r ∧ r.exitCode = 1 ∧
      r.files = (files.openWrite output).getD files := by
  cases houtput : files.openWrite output with
  | none =>
      have hopen : openFiles files input output =
          (files, if (files.read input).isSome then files.read input else none, false) := by
        rw [openFiles, houtput]
        rfl
      have hprocess := process_of_not_opened db
        ⟨if (files.read input).isSome then files.read input else none, false, vars.outputFormat,
          vars.extended⟩ (.inr rfl)
      rw [mainProcess, hopen]
      simp only [hprocess, Outcome.ok_bind]
      exact ⟨_, rfl, rfl, rfl⟩
  | some opened =>
      have hinput : files.read input = none := by
        refine hclosed.resolve_right fun hclosed => ?_
        rw [FileSystem.openWrite, hclosed] at houtput
        contradiction
      have hopen : openFiles files input output = (opened, none, true) := by
        rw [openFiles, houtput, hinput]
        rfl
      have hstored : opened = files.store output [] := by
        rw [FileSystem.openWrite] at houtput
        split at houtput
        · exact (Option.some.inj houtput).symm
        · contradiction
      have hprocess := process_of_not_opened db
        ⟨none, true, vars.outputFormat, vars.extended⟩ (.inl rfl)
      rw [mainProcess, hopen]
      simp only [hprocess, Outcome.ok_bind]
      refine ⟨_, rfl, rfl, ?_⟩
      rw [hstored]
      exact FileSystem.store_store

end Program

/-! ## the whole program -/

section Runs

variable {File : Type} [DecidableEq File] {files : FileSystem CString File}
variable {exe : Option (List UInt8)} {args : List CString} {allocates : Bool}
variable {r : ToolResult File} {toolDir : CString}

/-- Where nothing is to be converted, the other two promises hold of
themselves. -/
theorem toolRight_of_refused (h : conversion files exe args allocates = none)
    (hfiles : r.files = files)
    (hexit : r.exitCode =
      if getToolDirectory exe pathMax ≠ none ∧ .flag .help ∈ tokens args then 0 else 1) :
    ToolRight files exe args allocates r where
  refused _ := ⟨hfiles, hexit⟩
  failed c hc := absurd (h.symm.trans hc) (by simp)
  converted c hc := absurd (h.symm.trans hc) (by simp)

omit [DecidableEq File] in
/-- The conversion, once the directory of the program is known. -/
theorem conversion_eq (files : FileSystem CString File) (allocates : Bool)
    (hdir : getToolDirectory exe pathMax = some toolDir)
    (hhelp : .flag .help ∉ tokens args) :
    conversion files exe args allocates = (do
      let input ← (fileArguments args)[0]?
      let output ← (fileArguments args)[1]?
      let db ← loadedDatabases (files.read (databasePath toolDir "/formats.db"))
        (files.read (databasePath toolDir "/tags.db")) allocates
      return { input, output, db }) := by
  rw [conversion, hdir, Option.bind_eq_bind, Option.bind_some, if_neg hhelp]

/-- **A run with two files**, by the loading of the databases. -/
theorem mainConvert_right {input output : CString} {stderr : List UInt8}
    (hconversion : conversion files exe args allocates = (do
      let db ← loadedDatabases (files.read (databasePath toolDir "/formats.db"))
        (files.read (databasePath toolDir "/tags.db")) allocates
      return { input, output, db }))
    (hhelp : .flag .help ∉ tokens args)
    (h : mainConvert files toolDir allocates (requestedArguments args) input output stderr =
      .ok r) : ToolRight files exe args allocates r := by
  obtain ⟨⟨result, statics⟩, hinit, hrest⟩ := Outcome.bind_eq_ok h
  rw [logParserInit_returns hinit] at hconversion
  by_cases hresult : result = 0
  · simp only [if_neg (not_not_intro hresult)] at hrest
    rw [if_pos hresult] at hconversion
    refine ⟨fun hnone => absurd (hconversion.symm.trans hnone) (by simp), fun c hc hclosed => ?_,
      fun c hc hinput houtput => ?_⟩
    · cases hconversion.symm.trans hc
      obtain ⟨r', hr', hexit, hfiles⟩ := mainProcess_fails hclosed
      cases hr'.symm.trans hrest
      exact ⟨hexit, hfiles⟩
    · cases hconversion.symm.trans hc
      exact mainProcess_converts hinput houtput hrest
  · simp only [if_pos hresult] at hrest
    rw [if_neg hresult] at hconversion
    cases hrest
    exact toolRight_of_refused hconversion rfl (if_neg fun hasked => hhelp hasked.2).symm

/-- The databases can be counted, and the valid records of the input printed. -/
structure Convertible (files : FileSystem CString File) (exe : Option (List UInt8))
    (args : List CString) (allocates : Bool) : Prop where
  counted : ∀ toolDir, getToolDirectory exe pathMax = some toolDir →
    ∀ name ∈ ["/formats.db", "/tags.db"], ∀ file,
      files.read (databasePath toolDir name) = some file → countedLines file < 2 ^ 32
  printed : ∀ c, conversion files exe args allocates = some c →
    ∀ entry ∈ validEntries (c.file files),
      ∃ line, (requestedArguments args).render c.db entry = .ok line

/-- It returns if the databases can be counted and the valid records printed. -/
theorem exists_mainConvert {input output : CString} {stderr : List UInt8}
    (hconversion : conversion files exe args allocates = (do
      let db ← loadedDatabases (files.read (databasePath toolDir "/formats.db"))
        (files.read (databasePath toolDir "/tags.db")) allocates
      return { input, output, db }))
    (hdir : getToolDirectory exe pathMax = some toolDir)
    (h : Convertible files exe args allocates) :
    ∃ r, mainConvert files toolDir allocates (requestedArguments args) input output stderr =
      .ok r := by
  obtain ⟨result, statics, hinit⟩ := exists_logParserInit
    (h.counted toolDir hdir "/formats.db" (by simp))
    (h.counted toolDir hdir "/tags.db" (by simp)) allocates .initial
  rw [logParserInit_returns hinit] at hconversion
  simp only [mainConvert, hinit, Outcome.ok_bind]
  by_cases hresult : result = 0
  · rw [if_neg (not_not_intro hresult)]
    rw [if_pos hresult] at hconversion
    by_cases hclosed : files.read input = none ∨ files.writable output = false
    · obtain ⟨r, hr, -⟩ := mainProcess_fails hclosed
      exact ⟨r, hr⟩
    · rw [not_or, Bool.not_eq_false] at hclosed
      exact exists_mainProcess hclosed.1 hclosed.2 (h.printed _ hconversion)
  · rw [if_pos hresult]
    exact ⟨_, rfl⟩

/-- For every file system and every command line with fewer than 16 valid filters
before the last value of `-m`: a run of the program that returns does with its
files what it is asked to do, and it returns wherever the lines of the databases
can be counted and the valid records be printed. -/
theorem parserMain_right (files : FileSystem CString File) (exe : Option (List UInt8))
    (programName : CString) {args : List CString} (allocates : Bool)
    (hfit : ((moduleValues args).dropLast.countP fun value =>
      (parseModuleFilter value).isSome) < 16) :
    (∀ r, parserMain files exe programName args allocates = .ok r →
      ToolRight files exe args allocates r) ∧
    (Convertible files exe args allocates →
      ∃ r, parserMain files exe programName args allocates = .ok r) := by
  obtain ⟨roles, hloop⟩ : ∃ roles, parseArguments args .initial = (roles,
      if .flag .help ∈ tokens args then none else some (requestedArguments args)) :=
    ⟨_, Prod.ext rfl (parseArguments_requested hfit)⟩
  rw [parserMain, hloop]
  cases hdir : getToolDirectory exe pathMax with
  | none =>
      refine ⟨?_, fun _ => ⟨_, rfl⟩⟩
      rintro _ ⟨⟩
      exact toolRight_of_refused (by rw [conversion, hdir]; rfl) rfl (by simp [hdir])
  | some toolDir =>
      by_cases hhelp : .flag .help ∈ tokens args
      · simp only [if_pos hhelp]
        refine ⟨?_, fun _ => ⟨_, rfl⟩⟩
        rintro _ ⟨⟩
        refine toolRight_of_refused ?_ rfl (by simp [hdir, hhelp])
        rw [conversion, hdir, Option.bind_eq_bind, Option.bind_some, if_pos hhelp]
      · have hconversion := conversion_eq files allocates hdir hhelp
        have hexit : (1 : Int) =
            if some toolDir ≠ none ∧ .flag .help ∈ tokens args then 0 else 1 :=
          (if_neg fun hasked => hhelp hasked.2).symm
        rw [← hdir] at hexit
        simp only [if_neg hhelp]
        have hfiles : (requestedArguments args).inputFile = (fileArguments args)[0]? ∧
            (requestedArguments args).outputFile = (fileArguments args)[1]? := ⟨rfl, rfl⟩
        rw [hfiles.1, hfiles.2]
        cases hinput : (fileArguments args)[0]? with
        | none =>
            rw [hinput] at hconversion
            refine ⟨?_, fun _ => ⟨_, rfl⟩⟩
            rintro _ ⟨⟩
            exact toolRight_of_refused hconversion rfl hexit
        | some input =>
            cases houtput : (fileArguments args)[1]? with
            | none =>
                rw [hinput, houtput] at hconversion
                refine ⟨?_, fun _ => ⟨_, rfl⟩⟩
                rintro _ ⟨⟩
                exact toolRight_of_refused hconversion rfl hexit
            | some output =>
                rw [hinput, houtput] at hconversion
                exact ⟨fun r hr => mainConvert_right hconversion hhelp hr,
                  exists_mainConvert hconversion hdir⟩

end Runs

/-- A directory with the program, its databases and a log of one record. -/
def toolFiles : FileSystem CString Nat where
  file path :=
    if path.bytes = asciiBytes "/opt/formats.db" then 0
    else if path.bytes = asciiBytes "/opt/tags.db" then 1
    else if path.bytes = asciiBytes "log.bin" then 2
    else 3
  contents
    | 0 => some (asciiBytes "0|Service %u ready|Service ready|0\n")
    | 1 => some (asciiBytes "0|SYSTEM\n")
    | 2 => some oneRecord
    | _ => none
  writable _ := true

/-- The arguments that convert the log in the minimal style. -/
def toolArgs : List CString :=
  [.ofAscii "log.bin", .ofAscii "log.txt", .ofAscii "-s", .ofAscii "minimal"]

/-- What they ask for. -/
theorem conversion_toolFiles :
    conversion toolFiles (some (asciiBytes "/opt/log_parser")) toolArgs true = some {
      input := .ofAscii "log.bin"
      output := .ofAscii "log.txt"
      db := ⟨[⟨0, .ofAscii "Service %u ready"⟩], [⟨0, .ofAscii "SYSTEM"⟩]⟩ } := by
  decide +kernel

theorem convertible_toolFiles :
    Convertible toolFiles (some (asciiBytes "/opt/log_parser")) toolArgs true where
  counted := by
    rintro toolDir hdir name hname file hfile
    cases hdir.symm.trans (show getToolDirectory _ _ = some (.ofAscii "/opt") by decide +kernel)
    simp only [List.mem_cons, List.not_mem_nil, or_false] at hname
    obtain rfl | rfl := hname
    · cases hfile.symm.trans (show _ = some (asciiBytes "0|Service %u ready|Service ready|0\n")
        by decide +kernel)
      decide +kernel
    · cases hfile.symm.trans (show _ = some (asciiBytes "0|SYSTEM\n") by decide +kernel)
      decide +kernel
  printed := by
    rintro c hc entry hentry
    cases hc.symm.trans conversion_toolFiles
    have hentries : validEntries (Conversion.file ⟨.ofAscii "log.bin", .ofAscii "log.txt",
        ⟨[⟨0, .ofAscii "Service %u ready"⟩], [⟨0, .ofAscii "SYSTEM"⟩]⟩⟩ toolFiles) =
        [.ofBytes oneRecord] := by
      decide +kernel
    rw [hentries, List.mem_singleton] at hentry
    subst hentry
    exact ⟨asciiBytes "0 | INFO | Service 0 ready\n", by decide +kernel⟩

/-- The run converts the log. -/
theorem parserMain_right_toolFiles :
    ∃ r, parserMain toolFiles (some (asciiBytes "/opt/log_parser")) (.ofAscii "log_parser") toolArgs
        true = .ok r ∧
      ToolRight toolFiles (some (asciiBytes "/opt/log_parser")) toolArgs true r := by
  have hright := parserMain_right toolFiles (some (asciiBytes "/opt/log_parser"))
    (.ofAscii "log_parser") true (show ((moduleValues toolArgs).dropLast.countP fun value =>
      (parseModuleFilter value).isSome) < 16 by decide +kernel)
  obtain ⟨r, hr⟩ := hright.2 convertible_toolFiles
  exact ⟨r, hr, hright.1 r hr⟩

end AutoMlos
