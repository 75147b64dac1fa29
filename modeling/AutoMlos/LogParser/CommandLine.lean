import AutoMlos.LogParser.Options

/-!
# AutoMlos.LogParser.CommandLine

What a command line of the log parser means.

Read as tokens, a command line gives the two files and the settings: of the
values of an option the last one counts, the module filters add up, and an
option `-h` anywhere asks for the usage only.  This is what the loop of `main`
makes of the arguments as long as its filters fit.
-/

namespace AutoMlos

open Lib

/-! ## the loop over the tokens -/

/-- What a token does to the variables of the loop. -/
def ParserArguments.withToken (vars : ParserArguments) : ArgumentToken → ParserArguments
  | .file arg => vars.withFile arg
  | .flag .verbose => { vars with verbose := true }
  | .flag _ => vars
  | .valued option value => vars.withValue option value

/-- The loop leaves at a token that asks for the usage. -/
theorem parseArguments_eq_tokens {args : List CString} {vars : ParserArguments}
    (hfit : FiltersFit vars.filters.length (moduleValues args)) :
    (parseArguments args vars).2 =
      if .flag .help ∈ tokens args then none
      else some ((tokens args).foldl ParserArguments.withToken vars) := by
  induction args using tokens.induct generalizing vars with
  | case1 => rfl
  | case2 arg rest h ih =>
      rw [moduleValues_file h, ← filters_withFile vars arg] at hfit
      rw [parseArguments_file h, tokens_file h, ih hfit]
      simp [ParserArguments.withToken]
  | case3 arg option h hvalue =>
      have hhelp : ArgumentToken.flag .help ≠ .flag option := by
        rintro ⟨⟩
        exact hvalue.1 rfl
      have hsame : vars.withToken (.flag option) = vars := by
        cases option with
        | verbose => exact absurd rfl hvalue.2
        | _ => rfl
      rw [parseArguments_missing h hvalue, tokens_missing h]
      simp [hhelp, hsame]
  | case4 arg option h hvalue value rest ih =>
      obtain ⟨htakes, hfit⟩ := (filtersFit_valued h hvalue).mp hfit
      rw [parseArguments_valued h hvalue, if_pos htakes, tokens_valued h hvalue, ih hfit]
      simp [ParserArguments.withToken]
  | case5 arg rest option h hflag ih =>
      obtain rfl | rfl := eq_of_not_hasValue hflag
      · rw [parseArguments_help h, tokens_flag h hflag]
        simp
      · have hroom : FiltersFit ({ vars with verbose := true } : ParserArguments).filters.length
            (moduleValues rest) := by
          rwa [moduleValues_verbose h] at hfit
        rw [parseArguments_verbose h, tokens_flag h hflag, ih hroom]
        simp [ParserArguments.withToken]

/-! ## settings -/

/-- Where some elements set a field and the others leave it, the last one that
sets it counts. -/
theorem get_foldl_eq_getLast? {σ α β : Type} {get : σ → β} {step : σ → α → σ} {set? : α → Option β}
    (h : ∀ s a, get (step s a) = (set? a).getD (get s)) (s : σ) (as : List α) :
    get (as.foldl step s) = (as.filterMap set?).getLast?.getD (get s) := by
  induction as generalizing s with
  | nil => rfl
  | cons a as ih =>
      rw [List.foldl_cons, ih, h]
      cases ha : set? a with
      | none => rw [List.filterMap_cons_none ha, Option.getD_none]
      | some b =>
          rw [List.filterMap_cons_some ha, List.getLast?_cons, Option.getD_some, Option.getD_some]

/-- What some elements add to a list they add in order. -/
theorem get_foldl_eq_append {σ α β : Type} {get : σ → List β} {step : σ → α → σ}
    {added : α → Option β} (h : ∀ s a, get (step s a) = get s ++ (added a).toList) (s : σ)
    (as : List α) : get (as.foldl step s) = get s ++ as.filterMap added := by
  induction as generalizing s with
  | nil => simp
  | cons a as ih =>
      rw [List.foldl_cons, ih, h, List.append_assoc]
      cases ha : added a with
      | none => rw [List.filterMap_cons_none ha, Option.toList_none, List.nil_append]
      | some b => rw [List.filterMap_cons_some ha, Option.toList_some, List.singleton_append]

/-- The value that a token gives an option. -/
def ArgumentToken.value? (option : ParserOption) : ArgumentToken → Option CString
  | .valued option' value => if option' = option then some value else none
  | _ => none

/-- The values of an option, in order. -/
def optionValues (option : ParserOption) (args : List CString) : List CString :=
  (tokens args).filterMap (ArgumentToken.value? option)

/-- What a command line means, if it does not ask for the usage. -/
def requestedArguments (args : List CString) : ParserArguments where
  inputFile := (fileArguments args)[0]?
  outputFile := (fileArguments args)[1]?
  outputFormat := ((optionValues .format args).map parseFormat).getLast?.getD .text
  colorMode := ((optionValues .color args).map parseColorMode).getLast?.getD .minimal
  logFormat := ((optionValues .style args).map parseLogFormat).getLast?.getD .smart
  verbose := decide (.flag .verbose ∈ tokens args)
  filters := (optionValues .module args).filterMap parseModuleFilter

section Fields

variable (vars : ParserArguments) (token : ArgumentToken)

theorem outputFormat_withFile (arg : CString) :
    (vars.withFile arg).outputFormat = vars.outputFormat := by
  unfold ParserArguments.withFile
  split_ifs <;> rfl

theorem colorMode_withFile (arg : CString) : (vars.withFile arg).colorMode = vars.colorMode := by
  unfold ParserArguments.withFile
  split_ifs <;> rfl

theorem logFormat_withFile (arg : CString) : (vars.withFile arg).logFormat = vars.logFormat := by
  unfold ParserArguments.withFile
  split_ifs <;> rfl

theorem verbose_withFile (arg : CString) : (vars.withFile arg).verbose = vars.verbose := by
  unfold ParserArguments.withFile
  split_ifs <;> rfl

theorem outputFormat_withToken : (vars.withToken token).outputFormat =
    ((token.value? .format).map parseFormat).getD vars.outputFormat := by
  rcases token with arg | option | ⟨option, value⟩
  · exact outputFormat_withFile vars arg
  · cases option <;> rfl
  · cases option <;> rfl

theorem colorMode_withToken : (vars.withToken token).colorMode =
    ((token.value? .color).map parseColorMode).getD vars.colorMode := by
  rcases token with arg | option | ⟨option, value⟩
  · exact colorMode_withFile vars arg
  · cases option <;> rfl
  · cases option <;> rfl

theorem logFormat_withToken : (vars.withToken token).logFormat =
    ((token.value? .style).map parseLogFormat).getD vars.logFormat := by
  rcases token with arg | option | ⟨option, value⟩
  · exact logFormat_withFile vars arg
  · cases option <;> rfl
  · cases option <;> rfl

theorem filters_withToken : (vars.withToken token).filters =
    vars.filters ++ ((token.value? .module).bind parseModuleFilter).toList := by
  rcases token with arg | option | ⟨option, value⟩
  · exact (filters_withFile vars arg).trans (List.append_nil _).symm
  · cases option <;> exact (List.append_nil _).symm
  · cases option <;> first | exact (List.append_nil _).symm | rfl

theorem verbose_withToken : (vars.withToken token).verbose =
    (vars.verbose || decide (token = .flag .verbose)) := by
  rcases token with arg | option | ⟨option, value⟩
  · rw [ParserArguments.withToken, verbose_withFile]
    simp
  · cases option <;> simp [ParserArguments.withToken]
  · cases option <;> simp [ParserArguments.withToken, ParserArguments.withValue]

theorem hasFiles_withToken {files : List CString} (h : vars.HasFiles files) :
    (vars.withToken token).HasFiles (files ++ token.file?.toList) := by
  rcases token with arg | option | ⟨option, value⟩
  · exact hasFiles_withFile h arg
  · have hnone : (ArgumentToken.flag option).file? = none := rfl
    rw [hnone, Option.toList_none, List.append_nil]
    cases option <;> exact h
  · have hnone : (ArgumentToken.valued option value).file? = none := rfl
    rw [hnone, Option.toList_none, List.append_nil]
    exact hasFiles_withValue h option value

end Fields

/-! ## the command line -/

/-- The files of the loop over some tokens. -/
theorem hasFiles_foldl {ts : List ArgumentToken} {vars : ParserArguments} {files : List CString}
    (h : vars.HasFiles files) :
    (ts.foldl ParserArguments.withToken vars).HasFiles
      (files ++ ts.filterMap ArgumentToken.file?) := by
  induction ts generalizing vars files with
  | nil => rwa [List.filterMap_nil, List.append_nil]
  | cons token ts ih =>
      have hrest := ih (hasFiles_withToken vars token h)
      cases hfile : token.file? with
      | none =>
          rw [hfile, Option.toList_none, List.append_nil] at hrest
          rwa [List.filterMap_cons_none hfile]
      | some file =>
          rw [hfile, Option.toList_some, List.append_assoc, List.singleton_append] at hrest
          rwa [List.filterMap_cons_some hfile]

/-- The loop notes `-v` wherever it is. -/
theorem verbose_foldl (ts : List ArgumentToken) (vars : ParserArguments) :
    (ts.foldl ParserArguments.withToken vars).verbose =
      (vars.verbose || decide (.flag .verbose ∈ ts)) := by
  induction ts generalizing vars with
  | nil => simp
  | cons token ts ih =>
      rw [List.foldl_cons, ih, verbose_withToken, Bool.or_assoc]
      congr 1
      by_cases htoken : token = .flag .verbose
      · simp [htoken]
      · have hne : ArgumentToken.flag .verbose ≠ token := fun h => htoken h.symm
        simp [htoken, hne]

/-- The variables of the loop over the tokens of a command line. -/
theorem foldl_withToken (args : List CString) :
    (tokens args).foldl ParserArguments.withToken .initial = requestedArguments args := by
  obtain ⟨hinput, houtput⟩ : ((tokens args).foldl ParserArguments.withToken .initial).HasFiles
      ([] ++ fileArguments args) := hasFiles_foldl ⟨rfl, rfl⟩
  have hformat := get_foldl_eq_getLast? outputFormat_withToken .initial (tokens args)
  have hcolor := get_foldl_eq_getLast? colorMode_withToken .initial (tokens args)
  have hstyle := get_foldl_eq_getLast? logFormat_withToken .initial (tokens args)
  have hfilters := get_foldl_eq_append filters_withToken .initial (tokens args)
  have hverbose := verbose_foldl (tokens args) .initial
  rw [← List.map_filterMap] at hformat hcolor hstyle
  rw [← List.filterMap_filterMap] at hfilters
  generalize (tokens args).foldl ParserArguments.withToken .initial = vars at *
  obtain ⟨inputFile, outputFile, outputFormat, colorMode, logFormat, verbose, filters⟩ := vars
  simp only at hinput houtput hformat hcolor hstyle hfilters hverbose
  simp only [requestedArguments, hinput, houtput, hformat, hcolor, hstyle, hfilters, hverbose,
    optionValues, ParserArguments.initial, List.nil_append, Bool.false_or]

/-- For every argument vector: if fewer than 16 of the values of `-m` before the
last of them are valid filters, the loop leaves with the usage if and only if
`-h` is one of the options, and otherwise its variables are what the command
line means. -/
theorem parseArguments_requested {args : List CString}
    (h : ((moduleValues args).dropLast.countP fun value => (parseModuleFilter value).isSome) < 16) :
    (parseArguments args .initial).2 =
      if .flag .help ∈ tokens args then none else some (requestedArguments args) := by
  have hfit : FiltersFit ParserArguments.initial.filters.length (moduleValues args) :=
    (filtersFit_zero _).mpr h
  rw [parseArguments_eq_tokens hfit, foldl_withToken]

/-- The second of two formats counts, and the filters add up. -/
theorem parseArguments_requested_twoFormats :
    (parseArguments
      [.ofAscii "-f", .ofAscii "csv", .ofAscii "log.bin", .ofAscii "-m", .ofAscii "SYSTEM:INFO",
        .ofAscii "--format", .ofAscii "json", .ofAscii "-m", .ofAscii "KERNEL:ERROR",
        .ofAscii "log.txt"] .initial).2 =
      some ⟨some (.ofAscii "log.bin"), some (.ofAscii "log.txt"), .json, .minimal, .smart, false,
        [⟨0, 2⟩, ⟨1, 1⟩]⟩ :=
  (parseArguments_requested (by decide +kernel)).trans (by decide +kernel)

end AutoMlos
