import AutoMlos.Lib.CharArray
import AutoMlos.Lib.Scanf
import AutoMlos.LogParser.Extended

/-!
# AutoMlos.LogParser.Options

The command line of the log parser (`tools/log_parser/main.c`).

The loop over the arguments is modelled with the role that each argument plays
in it.  What the roles should be is another reading of the arguments (`tokens`),
in which an option takes its value whatever has gone before.  The loop follows
it up to the point where it meets `-m` with all 16 filters stored: there it does
not take the value of the option, and looks at the value as the next argument.
-/

namespace AutoMlos

open Lib

/-! ## values -/

/-- `parse_format`. -/
def parseFormat (formatStr : CString) : OutputFormat :=
  if formatStr.bytes = asciiBytes "text" then .text
  else if formatStr.bytes = asciiBytes "json" then .json
  else if formatStr.bytes = asciiBytes "csv" then .csv
  else if formatStr.bytes = asciiBytes "binary" then .binary
  else .text

/-- `parse_color_mode`. -/
def parseColorMode (modeStr : CString) : ColorMode :=
  if modeStr.bytes = asciiBytes "never" then .never
  else if modeStr.bytes = asciiBytes "minimal" then .minimal
  else if modeStr.bytes = asciiBytes "always" then .always
  else .minimal

/-- `parse_log_format`. -/
def parseLogFormat (formatStr : CString) : LogFormat :=
  if formatStr.bytes = asciiBytes "smart" then .smart
  else if formatStr.bytes = asciiBytes "fixed" then .fixed
  else if formatStr.bytes = asciiBytes "minimal" then .minimal
  else if formatStr.bytes = asciiBytes "verbose" then .verbose
  else .smart

/-- `"%31[^:]:%31s"`. -/
def moduleFilterFormat : List ScanDirective :=
  [.upTo 31 (charByte ':'), .literal (charByte ':'), .word 31]

/-- The tag that `parse_module_filter` has for a name (`log_tag_id_t`). -/
def moduleTag (tagStr : CString) : Option UInt8 :=
  if tagStr.bytes = asciiBytes "SYSTEM" then some 0
  else if tagStr.bytes = asciiBytes "KERNEL" then some 1
  else if tagStr.bytes = asciiBytes "DRIVER_CAN" then some 4
  else if tagStr.bytes = asciiBytes "SERVICE_AI" then some 5
  else if tagStr.bytes = asciiBytes "SERVICE_DIAG" then some 6
  else if tagStr.bytes = asciiBytes "APPLICATION" then some 8
  else none

/-- The level that `parse_module_filter` has for a name (`log_level_t`). -/
def moduleLevel (levelStr : CString) : Option Nat :=
  if levelStr.bytes = asciiBytes "DEBUG" then some 3
  else if levelStr.bytes = asciiBytes "INFO" then some 2
  else if levelStr.bytes = asciiBytes "ERROR" then some 1
  else if levelStr.bytes = asciiBytes "EMERGENCY" then some 0
  else none

/-- `parse_module_filter`: the filter, if its result is 0.  Both texts fit in
their arrays (`length_moduleFilter_texts`). -/
def parseModuleFilter (filterStr : CString) : Option ModuleFilter :=
  let (assigned, values) := sscanf filterStr moduleFilterFormat
  if assigned ≠ 2 then none
  else do
    let tagId ← moduleTag (CString.ofBuffer (scannedText values 0))
    let minLevel ← moduleLevel (CString.ofBuffer (scannedText values 1))
    return { tagId, minLevel }

theorem length_moduleFilter_texts (filterStr : CString) :
    (scannedText (sscanf filterStr moduleFilterFormat).2 0).length < 32 ∧
      (scannedText (sscanf filterStr moduleFilterFormat).2 1).length < 32 := by
  have htag : (conversions moduleFilterFormat)[0]? = some (.upTo 31 (charByte ':')) := rfl
  have hlevel : (conversions moduleFilterFormat)[1]? = some (.word 31) := rfl
  exact ⟨Nat.lt_succ_of_le (length_scannedText_le filterStr htag),
    Nat.lt_succ_of_le (length_scannedText_le filterStr hlevel)⟩

/-! ## the loop -/

/-- The options of the parser. -/
inductive ParserOption where
  | help
  | format
  | color
  | style
  | module
  | verbose
  deriving DecidableEq, Repr

/-- The option that an argument is, in one of its two spellings. -/
def parserOption? (arg : CString) : Option ParserOption :=
  if arg.bytes = asciiBytes "-h" ∨ arg.bytes = asciiBytes "--help" then some .help
  else if arg.bytes = asciiBytes "-f" ∨ arg.bytes = asciiBytes "--format" then some .format
  else if arg.bytes = asciiBytes "-c" ∨ arg.bytes = asciiBytes "--color" then some .color
  else if arg.bytes = asciiBytes "-s" ∨ arg.bytes = asciiBytes "--style" then some .style
  else if arg.bytes = asciiBytes "-m" ∨ arg.bytes = asciiBytes "--module" then some .module
  else if arg.bytes = asciiBytes "-v" ∨ arg.bytes = asciiBytes "--verbose" then some .verbose
  else none

/-- The variables of the loop in `main`; the list has the first `filter_count`
filters. -/
structure ParserArguments where
  inputFile : Option CString
  outputFile : Option CString
  outputFormat : OutputFormat
  colorMode : ColorMode
  logFormat : LogFormat
  verbose : Bool
  filters : List ModuleFilter
  deriving DecidableEq, Repr

namespace ParserArguments

/-- The variables before the loop. -/
def initial : ParserArguments where
  inputFile := none
  outputFile := none
  outputFormat := .text
  colorMode := .minimal
  logFormat := .smart
  verbose := false
  filters := []

/-- An argument that is no option. -/
def withFile (vars : ParserArguments) (arg : CString) : ParserArguments :=
  if vars.inputFile = none then { vars with inputFile := some arg }
  else if vars.outputFile = none then { vars with outputFile := some arg }
  else vars

/-- The loop takes the value of an option, if there is one: it stops at 16
filters. -/
def Takes (vars : ParserArguments) (option : ParserOption) : Prop :=
  option = .module → vars.filters.length < 16

instance (vars : ParserArguments) (option : ParserOption) : Decidable (vars.Takes option) :=
  inferInstanceAs (Decidable (_ → _))

/-- The value of an option; a module filter that is not valid is ignored with a
warning. -/
def withValue (vars : ParserArguments) (option : ParserOption) (value : CString) :
    ParserArguments :=
  match option with
  | .format => { vars with outputFormat := parseFormat value }
  | .color => { vars with colorMode := parseColorMode value }
  | .style => { vars with logFormat := parseLogFormat value }
  | .module => { vars with filters := vars.filters ++ (parseModuleFilter value).toList }
  | _ => vars

end ParserArguments

/-- What an argument is to the loop. -/
inductive ArgumentRole where
  | option
  | value
  | positional
  deriving DecidableEq, Repr

/-- The loop over the arguments: the roles of those that it has looked at, and
its variables at the end, unless it has printed the usage and left. -/
def parseArguments : List CString → ParserArguments →
    List ArgumentRole × Option ParserArguments
  | [], vars => ([], some vars)
  | arg :: rest, vars =>
      match parserOption? arg with
      | none =>
          let (roles, result) := parseArguments rest (vars.withFile arg)
          (.positional :: roles, result)
      | some .help => ([.option], none)
      | some .verbose =>
          let (roles, result) := parseArguments rest { vars with verbose := true }
          (.option :: roles, result)
      | some option =>
          match rest with
          | [] => ([.option], some vars)
          | value :: rest' =>
              if vars.Takes option then
                let (roles, result) := parseArguments rest' (vars.withValue option value)
                (.option :: .value :: roles, result)
              else
                let (roles, result) := parseArguments (value :: rest') vars
                (.option :: roles, result)

/-! ## what the arguments are -/

/-- The option has a value. -/
def ParserOption.HasValue (option : ParserOption) : Prop :=
  option ≠ .help ∧ option ≠ .verbose

instance (option : ParserOption) : Decidable option.HasValue :=
  inferInstanceAs (Decidable (_ ∧ _))

/-- Arguments that belong together. -/
inductive ArgumentToken where
  | file (arg : CString)
  | flag (option : ParserOption)
  | valued (option : ParserOption) (value : CString)
  deriving DecidableEq, Repr

/-- The arguments as they are meant: an option that has a value takes the next
argument, whatever that is. -/
def tokens : List CString → List ArgumentToken
  | [] => []
  | arg :: rest =>
      match parserOption? arg with
      | none => .file arg :: tokens rest
      | some option =>
          if option.HasValue then
            match rest with
            | [] => [.flag option]
            | value :: rest' => .valued option value :: tokens rest'
          else .flag option :: tokens rest

namespace ArgumentToken

/-- The roles of the arguments. -/
def roles : ArgumentToken → List ArgumentRole
  | file _ => [.positional]
  | flag _ => [.option]
  | valued _ _ => [.option, .value]

/-- An argument that is neither an option nor the value of one. -/
def file? : ArgumentToken → Option CString
  | file arg => some arg
  | _ => none

/-- The value of `-m`. -/
def moduleValue? : ArgumentToken → Option CString
  | valued .module value => some value
  | _ => none

end ArgumentToken

/-- The intended role of each argument. -/
def intendedRoles (args : List CString) : List ArgumentRole :=
  (tokens args).flatMap ArgumentToken.roles

/-- The arguments that are neither options nor values. -/
def fileArguments (args : List CString) : List CString :=
  (tokens args).filterMap ArgumentToken.file?

/-- The values of `-m`, up to where the usage is asked for. -/
def moduleValues (args : List CString) : List CString :=
  ((tokens args).takeWhile (· ≠ .flag .help)).filterMap ArgumentToken.moduleValue?

/-- What the loop promises: no value of an option is taken as a positional
argument, and if it ends the two files are the first two arguments that are
neither options nor values. -/
structure TakesFiles (args : List CString) : Prop where
  values : ∀ i : Nat, (intendedRoles args)[i]? = some ArgumentRole.value →
    (parseArguments args .initial).1[i]? ≠ some ArgumentRole.positional
  files : ∀ vars, (parseArguments args .initial).2 = some vars →
    vars.inputFile = (fileArguments args)[0]? ∧ vars.outputFile = (fileArguments args)[1]?

/-! ## the loop and the tokens -/

section Equations

variable {arg value : CString} {rest : List CString} {option : ParserOption}

theorem tokens_file (h : parserOption? arg = none) : tokens (arg :: rest) =
    .file arg :: tokens rest := by
  rw [tokens, h]

theorem tokens_flag (h : parserOption? arg = some option) (hflag : ¬ option.HasValue) :
    tokens (arg :: rest) = .flag option :: tokens rest := by
  rw [tokens, h]
  simp only [if_neg hflag]

theorem tokens_missing (h : parserOption? arg = some option) :
    tokens [arg] = [.flag option] := by
  rw [tokens, h]
  simp only [tokens, ite_self]

theorem tokens_valued (h : parserOption? arg = some option) (hvalue : option.HasValue) :
    tokens (arg :: value :: rest) = .valued option value :: tokens rest := by
  rw [tokens, h]
  simp only [if_pos hvalue]

variable {vars : ParserArguments}

theorem parseArguments_file (h : parserOption? arg = none) :
    parseArguments (arg :: rest) vars =
      (.positional :: (parseArguments rest (vars.withFile arg)).1,
        (parseArguments rest (vars.withFile arg)).2) := by
  rw [parseArguments, h]

theorem parseArguments_help (h : parserOption? arg = some .help) :
    parseArguments (arg :: rest) vars = ([.option], none) := by
  rw [parseArguments, h]

theorem parseArguments_verbose (h : parserOption? arg = some .verbose) :
    parseArguments (arg :: rest) vars =
      (.option :: (parseArguments rest { vars with verbose := true }).1,
        (parseArguments rest { vars with verbose := true }).2) := by
  rw [parseArguments, h]

/-- What the loop does at an option with a value. -/
theorem parseArguments_option (h : parserOption? arg = some option) (hvalue : option.HasValue) :
    parseArguments (arg :: rest) vars =
      match rest with
      | [] => ([.option], some vars)
      | value :: rest' =>
          if vars.Takes option then
            (.option :: .value :: (parseArguments rest' (vars.withValue option value)).1,
              (parseArguments rest' (vars.withValue option value)).2)
          else
            (.option :: (parseArguments (value :: rest') vars).1,
              (parseArguments (value :: rest') vars).2) := by
  rw [parseArguments, h]
  cases option with
  | help => exact absurd rfl hvalue.1
  | verbose => exact absurd rfl hvalue.2
  | _ => cases rest <;> rfl

theorem parseArguments_missing (h : parserOption? arg = some option) (hvalue : option.HasValue) :
    parseArguments [arg] vars = ([.option], some vars) :=
  parseArguments_option h hvalue

/-- The value of an option is taken, or looked at next. -/
theorem parseArguments_valued (h : parserOption? arg = some option) (hvalue : option.HasValue) :
    parseArguments (arg :: value :: rest) vars =
      if vars.Takes option then
        (.option :: .value :: (parseArguments rest (vars.withValue option value)).1,
          (parseArguments rest (vars.withValue option value)).2)
      else
        (.option :: (parseArguments (value :: rest) vars).1,
          (parseArguments (value :: rest) vars).2) :=
  parseArguments_option h hvalue

end Equations

/-! ## the filters that are stored -/

/-- All the values of `-m` are met with room for a filter, after some filters
have been stored. -/
def FiltersFit (stored : Nat) (values : List CString) : Prop :=
  values = [] ∨ stored + (values.dropLast.countP fun value => (parseModuleFilter value).isSome) < 16

/-- The first value is met with the filters stored so far. -/
theorem filtersFit_cons (stored : Nat) (value : CString) (values : List CString) :
    FiltersFit stored (value :: values) ↔
      stored < 16 ∧ FiltersFit (stored + (parseModuleFilter value).toList.length) values := by
  have hone : (parseModuleFilter value).toList.length =
      if (parseModuleFilter value).isSome then 1 else 0 := by
    cases parseModuleFilter value <;> rfl
  cases values with
  | nil => simp [FiltersFit]
  | cons next values =>
      simp only [FiltersFit, List.dropLast_cons_cons, List.countP_cons, hone, reduceCtorEq,
        false_or]
      omega

section Tokens

variable {arg value : CString} {rest : List CString} {option : ParserOption}

/-- What a file name adds. -/
theorem read_file (h : parserOption? arg = none) (rest : List CString) :
    intendedRoles (arg :: rest) = .positional :: intendedRoles rest ∧
      fileArguments (arg :: rest) = arg :: fileArguments rest := by
  rw [intendedRoles, fileArguments, tokens_file h]
  exact ⟨rfl, rfl⟩

/-- What an option without a value adds. -/
theorem read_flag (h : parserOption? arg = some option) (hflag : ¬ option.HasValue)
    (rest : List CString) :
    intendedRoles (arg :: rest) = .option :: intendedRoles rest ∧
      fileArguments (arg :: rest) = fileArguments rest := by
  rw [intendedRoles, fileArguments, tokens_flag h hflag]
  exact ⟨rfl, rfl⟩

/-- What an option with its value adds. -/
theorem read_valued (h : parserOption? arg = some option) (hvalue : option.HasValue)
    (value : CString) (rest : List CString) :
    intendedRoles (arg :: value :: rest) = .option :: .value :: intendedRoles rest ∧
      fileArguments (arg :: value :: rest) = fileArguments rest := by
  rw [intendedRoles, fileArguments, tokens_valued h hvalue]
  exact ⟨rfl, rfl⟩

/-- What an option adds whose value is missing. -/
theorem read_missing (h : parserOption? arg = some option) :
    intendedRoles [arg] = [.option] ∧ fileArguments [arg] = [] ∧ moduleValues [arg] = [] := by
  rw [intendedRoles, fileArguments, moduleValues, tokens_missing h]
  cases option <;> exact ⟨rfl, rfl, rfl⟩

theorem moduleValues_file (h : parserOption? arg = none) :
    moduleValues (arg :: rest) = moduleValues rest := by
  rw [moduleValues, tokens_file h, List.takeWhile_cons_of_pos (by simp)]
  rfl

theorem moduleValues_help (h : parserOption? arg = some .help) :
    moduleValues (arg :: rest) = [] := by
  rw [moduleValues, tokens_flag h (by decide), List.takeWhile_cons_of_neg (by simp)]
  rfl

theorem moduleValues_verbose (h : parserOption? arg = some .verbose) :
    moduleValues (arg :: rest) = moduleValues rest := by
  rw [moduleValues, tokens_flag h (by decide), List.takeWhile_cons_of_pos (by simp)]
  rfl

theorem moduleValues_valued (h : parserOption? arg = some option) (hvalue : option.HasValue) :
    moduleValues (arg :: value :: rest) =
      if option = .module then value :: moduleValues rest else moduleValues rest := by
  rw [moduleValues, tokens_valued h hvalue, List.takeWhile_cons_of_pos (by simp)]
  cases option <;> rfl

/-- The next option is met with room for its filter, if it is one, and so are
those after it. -/
theorem filtersFit_valued {vars : ParserArguments} (h : parserOption? arg = some option)
    (hvalue : option.HasValue) :
    FiltersFit vars.filters.length (moduleValues (arg :: value :: rest)) ↔
      vars.Takes option ∧
        FiltersFit (vars.withValue option value).filters.length (moduleValues rest) := by
  rw [moduleValues_valued h hvalue]
  by_cases hmodule : option = .module
  · subst hmodule
    have hfilters : (vars.withValue .module value).filters.length =
        vars.filters.length + (parseModuleFilter value).toList.length := List.length_append
    rw [if_pos rfl, filtersFit_cons, hfilters]
    exact and_congr_left fun _ => ⟨fun h _ => h, fun h => h rfl⟩
  · have hfilters : (vars.withValue option value).filters = vars.filters := by
      cases option <;> first | rfl | contradiction
    rw [if_neg hmodule, hfilters]
    exact (and_iff_right fun h => absurd h hmodule).symm

end Tokens

/-! ## what the loop does with the files -/

/-- The files of the loop are the first two of some arguments. -/
def ParserArguments.HasFiles (vars : ParserArguments) (files : List CString) : Prop :=
  vars.inputFile = files[0]? ∧ vars.outputFile = files[1]?

theorem hasFiles_withFile {vars : ParserArguments} {files : List CString}
    (h : vars.HasFiles files) (arg : CString) : (vars.withFile arg).HasFiles (files ++ [arg]) := by
  obtain ⟨hinput, houtput⟩ := h
  rw [ParserArguments.withFile]
  match files with
  | [] => simp [ParserArguments.HasFiles, hinput, houtput]
  | [input] => simp [ParserArguments.HasFiles, hinput, houtput]
  | input :: output :: files => simp [ParserArguments.HasFiles, hinput, houtput]

theorem hasFiles_withValue {vars : ParserArguments} {files : List CString} (h : vars.HasFiles files)
    (option : ParserOption) (value : CString) : (vars.withValue option value).HasFiles files := by
  cases option <;> exact h

theorem filters_withFile (vars : ParserArguments) (arg : CString) :
    (vars.withFile arg).filters = vars.filters := by
  unfold ParserArguments.withFile
  split
  · rfl
  · split <;> rfl

theorem eq_of_not_hasValue {option : ParserOption} (h : ¬ option.HasValue) :
    option = .help ∨ option = .verbose := by
  cases option with
  | help => exact .inl rfl
  | verbose => exact .inr rfl
  | _ => exact absurd (by decide) h

/-- **The loop follows the tokens** while the filters fit: the roles are the
intended ones up to where it ends, and the files the ones that are meant. -/
theorem parseArguments_of_fit {args : List CString} {vars : ParserArguments}
    {files : List CString} (hfit : FiltersFit vars.filters.length (moduleValues args))
    (hfiles : vars.HasFiles files) :
    (parseArguments args vars).1 <+: intendedRoles args ∧
      ∀ vars', (parseArguments args vars).2 = some vars' →
        vars'.HasFiles (files ++ fileArguments args) := by
  induction args using tokens.induct generalizing vars files with
  | case1 =>
      refine ⟨List.prefix_rfl, ?_⟩
      rintro _ ⟨⟩
      rwa [show fileArguments [] = [] from rfl, List.append_nil]
  | case2 arg rest h ih =>
      obtain ⟨hintended, hmeant⟩ := read_file h rest
      rw [moduleValues_file h, ← filters_withFile vars arg] at hfit
      obtain ⟨hroles, hend⟩ := ih hfit (hasFiles_withFile hfiles arg)
      rw [parseArguments_file h, hintended, hmeant]
      refine ⟨List.cons_prefix_cons.mpr ⟨rfl, hroles⟩, fun vars' hvars' => ?_⟩
      have hfiles' := hend vars' hvars'
      rwa [List.append_assoc] at hfiles'
  | case3 arg option h hvalue =>
      obtain ⟨hintended, hmeant, -⟩ := read_missing h
      rw [parseArguments_missing h hvalue, hintended, hmeant, List.append_nil]
      refine ⟨List.prefix_rfl, ?_⟩
      rintro _ ⟨⟩
      exact hfiles
  | case4 arg option h hvalue value rest ih =>
      obtain ⟨hintended, hmeant⟩ := read_valued h hvalue value rest
      obtain ⟨htakes, hfit⟩ := (filtersFit_valued h hvalue).mp hfit
      obtain ⟨hroles, hend⟩ := ih hfit (hasFiles_withValue hfiles option value)
      rw [parseArguments_valued h hvalue, if_pos htakes, hintended, hmeant]
      exact ⟨List.cons_prefix_cons.mpr ⟨rfl, List.cons_prefix_cons.mpr ⟨rfl, hroles⟩⟩, hend⟩
  | case5 arg rest option h hflag ih =>
      obtain ⟨hintended, hmeant⟩ := read_flag h hflag rest
      rw [hintended, hmeant]
      obtain rfl | rfl := eq_of_not_hasValue hflag
      · rw [parseArguments_help h]
        exact ⟨List.cons_prefix_cons.mpr ⟨rfl, List.nil_prefix⟩, by simp⟩
      · have hverbose : ({ vars with verbose := true } : ParserArguments).HasFiles files := hfiles
        have hroom : FiltersFit ({ vars with verbose := true } : ParserArguments).filters.length
            (moduleValues rest) := by
          rwa [moduleValues_verbose h] at hfit
        obtain ⟨hroles, hend⟩ := ih hroom hverbose
        rw [parseArguments_verbose h]
        exact ⟨List.cons_prefix_cons.mpr ⟨rfl, hroles⟩, hend⟩

/-- **Where the filters do not fit** the value that is not taken is looked at,
and if it is no option it becomes a positional argument. -/
theorem exists_value_positional {args : List CString} {vars : ParserArguments}
    (hplain : ∀ value ∈ moduleValues args, parserOption? value = none)
    (hfit : ¬ FiltersFit vars.filters.length (moduleValues args)) :
    ∃ i : Nat, (intendedRoles args)[i]? = some ArgumentRole.value ∧
      (parseArguments args vars).1[i]? = some ArgumentRole.positional := by
  induction args using tokens.induct generalizing vars with
  | case1 => exact absurd (.inl rfl) hfit
  | case2 arg rest h ih =>
      rw [moduleValues_file h] at hplain hfit
      rw [← filters_withFile vars arg] at hfit
      obtain ⟨i, hvalue, hpositional⟩ := ih hplain hfit
      rw [parseArguments_file h, (read_file h rest).1]
      exact ⟨i + 1, hvalue, hpositional⟩
  | case3 arg option h hvalue => exact absurd (.inl (read_missing h).2.2) hfit
  | case4 arg option h hvalue value rest ih =>
      rw [parseArguments_valued h hvalue, (read_valued h hvalue value rest).1]
      by_cases htakes : vars.Takes option
      · have hlater : ∀ value ∈ moduleValues rest, parserOption? value = none := by
          intro value' hmem
          refine hplain value' ?_
          rw [moduleValues_valued h hvalue]
          split
          · exact List.mem_cons_of_mem value hmem
          · exact hmem
        rw [filtersFit_valued h hvalue, and_iff_right htakes] at hfit
        obtain ⟨i, hvalue, hpositional⟩ := ih hlater hfit
        rw [if_pos htakes]
        exact ⟨i + 2, hvalue, hpositional⟩
      · -- only `-m` leaves its value, and that is looked at next
        have hmodule : option = .module := (Classical.not_imp.mp htakes).1
        have hmem : value ∈ moduleValues (arg :: value :: rest) := by
          rw [moduleValues_valued h hvalue, if_pos hmodule]
          exact List.mem_cons_self
        rw [if_neg htakes, parseArguments_file (hplain value hmem)]
        exact ⟨1, rfl, rfl⟩
  | case5 arg rest option h hflag ih =>
      obtain rfl | rfl := eq_of_not_hasValue hflag
      · exact absurd (.inl (moduleValues_help h)) hfit
      · have hverbose : ¬ FiltersFit
            ({ vars with verbose := true } : ParserArguments).filters.length
            (moduleValues rest) := by
          rwa [moduleValues_verbose h] at hfit
        rw [moduleValues_verbose h] at hplain
        obtain ⟨i, hvalue, hpositional⟩ := ih hplain hverbose
        rw [parseArguments_verbose h, (read_flag h hflag rest).1]
        exact ⟨i + 1, hvalue, hpositional⟩

/-! ## the command line -/

theorem filtersFit_zero (values : List CString) :
    FiltersFit 0 values ↔
      (values.dropLast.countP fun value => (parseModuleFilter value).isSome) < 16 := by
  rw [FiltersFit, Nat.zero_add]
  refine ⟨?_, .inr⟩
  rintro (rfl | h)
  · decide
  · exact h

theorem takesFiles_of_fit {args : List CString} (h : FiltersFit 0 (moduleValues args)) :
    TakesFiles args := by
  have hroom : FiltersFit ParserArguments.initial.filters.length (moduleValues args) := h
  have hnone : ParserArguments.initial.HasFiles [] := ⟨rfl, rfl⟩
  obtain ⟨⟨later, hroles⟩, hend⟩ := parseArguments_of_fit hroom hnone
  refine ⟨fun i hvalue hpositional => ?_, hend⟩
  obtain ⟨hlt, -⟩ := List.getElem?_eq_some_iff.mp hpositional
  rw [← hroles, List.getElem?_append_left hlt, hpositional] at hvalue
  contradiction

/-- For every argument vector: if fewer than 16 of the values of `-m` before the
last of them are valid filters, no value of an option is taken as a positional
argument and the two files are the first two arguments that are neither options
nor values.  Where no value of `-m` is an option itself, only then. -/
theorem option_values_taken_iff (args : List CString) :
    (((moduleValues args).dropLast.countP fun value => (parseModuleFilter value).isSome) < 16 →
      TakesFiles args) ∧
    ((∀ value ∈ moduleValues args, parserOption? value = none) →
      (TakesFiles args ↔
        ((moduleValues args).dropLast.countP fun value => (parseModuleFilter value).isSome) <
          16)) := by
  rw [← filtersFit_zero]
  refine ⟨takesFiles_of_fit, fun hplain => ⟨fun h => ?_, takesFiles_of_fit⟩⟩
  by_contra hfit
  have hfull : ¬ FiltersFit ParserArguments.initial.filters.length (moduleValues args) := hfit
  obtain ⟨i, hvalue, hpositional⟩ := exists_value_positional hplain hfull
  exact h.values i hvalue hpositional

/-- Two filters, an output format and the two files, in any order. -/
theorem option_values_taken_iff_twoFilters : TakesFiles
    [.ofAscii "-m", .ofAscii "SYSTEM:INFO", .ofAscii "log.bin", .ofAscii "-f", .ofAscii "csv",
      .ofAscii "--module", .ofAscii "KERNEL:ERROR", .ofAscii "log.csv", .ofAscii "-v"] :=
  ((option_values_taken_iff _).2 (by decide +kernel)).mpr (by decide +kernel)

/-- After 16 filters the value of the next `-m` is taken as the input file. -/
theorem option_value_taken_as_file :
    ¬ ∀ args : List CString,
      (∀ option : ParserOption, .flag option ∈ tokens args → ¬ option.HasValue) →
      (∀ value ∈ moduleValues args, parserOption? value = none) → TakesFiles args := by
  intro h
  let filter : List CString := [.ofAscii "-m", .ofAscii "SYSTEM:INFO"]
  let args := (List.replicate 17 filter).flatten ++ [.ofAscii "log.bin", .ofAscii "log.txt"]
  have hflag : ∀ option : ParserOption, .flag option ∈ tokens args → ¬ option.HasValue := by
    intro option
    cases option <;> decide +kernel
  have hvalue : (intendedRoles args)[33]? = some .value := by decide +kernel
  have hpositional : (parseArguments args .initial).1[33]? = some .positional := by
    decide +kernel
  exact (h args hflag (by decide +kernel)).values 33 hvalue hpositional

end AutoMlos
