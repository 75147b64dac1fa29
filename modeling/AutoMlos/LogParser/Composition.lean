import AutoMlos.LogParser.Statistics

/-!
# AutoMlos.LogParser.Composition

How runs of the log parser compose.

The loop folds one round over the records of the file, and a round only appends
to what was printed before.  So a log may be cut between any two records and
parsed file by file, with the same output, statistics and faults
(`process_in_parts`).  And a run with filters prints what a run without them
prints of the records that validate and pass: under `FORMAT_TEXT` in the style
that was asked for, under every other format as the plain path does
(`filters_select_records`).
-/

namespace AutoMlos

open Lib

/-! ## the loop as a fold -/

/-- A run whose output stands behind that of another. -/
def ParserRun.behind (next run : ParserRun) : ParserRun where
  output := run.output ++ next.output
  stats := next.stats
  rendered := run.rendered ++ next.rendered

theorem ParserRun.start_behind (run : ParserRun) : (start run.stats).behind run = run := by
  rw [behind, start, List.append_nil, List.append_nil]

section Fold

variable (render : LogEntryBinary → Outcome (List UInt8))

/-- All rounds, one record after another. -/
def processRecords (read : List (List UInt8)) (run : ParserRun) : Outcome ParserRun :=
  read.foldlM (fun run record => logParserProcessRecord render record run) run

theorem processRecords_append (read read' : List (List UInt8)) (run : ParserRun) :
    processRecords render (read ++ read') run =
      processRecords render read run >>= processRecords render read' :=
  List.foldlM_append

/-- **The loop** folds one round over the records of the file. -/
theorem logParserLoop_eq_fold {fuel : Nat} {input : List UInt8} (hfuel : input.length < fuel)
    (run : ParserRun) :
    logParserLoop render fuel input run = processRecords render (records 20 input) run := by
  induction fuel generalizing input run with
  | zero => omega
  | succ fuel ih =>
      rw [logParserLoop, LogEntryBinary.size]
      by_cases hmore : 20 ≤ input.length
      · have hrest : (input.drop 20).length < fuel := by
          rw [List.length_drop]
          omega
        rw [if_pos hmore, records_of_le (by decide) hmore, processRecords, List.foldlM_cons]
        exact congrArg (logParserProcessRecord render (input.take 20) run >>= ·)
          (funext fun run => ih hrest run)
      · rw [if_neg hmore, records_of_lt (Nat.lt_of_not_le hmore)]
        rfl

theorem logParserProcess_eq_fold (file : List UInt8) (stats : ParserStats) :
    logParserProcess render (some file) true stats =
      ParserRun.toResult <$> processRecords render (records 20 file) (.start stats) := by
  rw [logParserProcess, logParserLoop_eq_fold render (Nat.lt_succ_self _)]
  rfl

/-- A round appends to what was printed before. -/
theorem processRecord_behind (record : List UInt8) (next run : ParserRun) :
    logParserProcessRecord render record (next.behind run) =
      (ParserRun.behind · run) <$> logParserProcessRecord render record next := by
  have hstats : (next.behind run).stats = next.stats := rfl
  simp only [logParserProcessRecord, hstats]
  split
  · cases render (.ofBytes record) with
    | ok text =>
        simp only [Outcome.ok_bind, Outcome.pure_eq_ok, Outcome.map_ok, ParserRun.behind,
          List.append_assoc]
    | undefined => rfl
    | outOfFuel => rfl
  · rfl

/-- So do all rounds. -/
theorem processRecords_behind (read : List (List UInt8)) (next run : ParserRun) :
    processRecords render read (next.behind run) =
      (ParserRun.behind · run) <$> processRecords render read next := by
  induction read generalizing next with
  | nil => rfl
  | cons record read ih =>
      rw [processRecords, List.foldlM_cons, processRecord_behind, processRecords, List.foldlM_cons,
        bind_map_left, map_bind]
      exact congrArg (logParserProcessRecord render record next >>= ·) (funext ih)

/-- What is printed after a run is printed as from a start with its statistics. -/
theorem processRecords_eq_behind (read : List (List UInt8)) (run : ParserRun) :
    processRecords render read run =
      (ParserRun.behind · run) <$> processRecords render read (.start run.stats) := by
  rw [← processRecords_behind, ParserRun.start_behind]

end Fold

/-! ## a log in parts -/

/-- The result of a file after the one of another. -/
def ParserResult.append (r r' : ParserResult) : ParserResult where
  result := r'.result
  output := r.output.bind fun front => r'.output.map (front ++ ·)
  stats := r'.stats
  rendered := r.rendered ++ r'.rendered

/-- The result of a file without records. -/
def ParserResult.empty (stats : ParserStats) : ParserResult where
  result := 0
  output := some []
  stats
  rendered := []

/-- The call on another file. -/
def ParserCall.on (call : ParserCall) (file : List UInt8) : ParserCall :=
  { call with input := some file, outputOpens := true }

theorem process_on (db : LogDatabases) (call : ParserCall) (file : List UInt8)
    (stats : ParserStats) :
    (call.on file).process db stats =
      ParserRun.toResult <$> processRecords (call.render db) (records 20 file) (.start stats) := by
  rw [ParserCall.process_eq]
  exact logParserProcess_eq_fold _ file stats

theorem toResult_append_empty (run : ParserRun) :
    run.toResult.append (.empty run.stats) = run.toResult := by
  simp [ParserResult.append, ParserResult.empty, ParserRun.toResult]

/-- **Two parts**: a file behind whole records gives what it gives after them. -/
theorem process_on_append (db : LogDatabases) (call : ParserCall) {first : List UInt8}
    (h : 20 ∣ first.length) (second : List UInt8) (stats : ParserStats) :
    (call.on (first ++ second)).process db stats =
      (call.on first).process db stats >>= fun r =>
        r.append <$> (call.on second).process db r.stats := by
  rw [process_on, process_on, records_append (by decide) h, processRecords_append, map_bind,
    bind_map_left]
  refine congrArg (processRecords (call.render db) (records 20 first) (.start stats) >>= ·)
    (funext fun run => ?_)
  have hstats : run.toResult.stats = run.stats := rfl
  rw [process_on, hstats, processRecords_eq_behind, Functor.map_map, Functor.map_map]
  rfl

/-- The results of the files of a log as the result of the log. -/
def joinResults (parts : List ParserResult × ParserStats) : ParserResult :=
  parts.1.foldr ParserResult.append (.empty parts.2)

/-- The call on a file, and then the calls on further files. -/
theorem joinResults_run_cons (db : LogDatabases) (call : ParserCall) (calls : List ParserCall)
    (stats : ParserStats) :
    joinResults <$> run (parserStep db) stats (call :: calls) =
      call.process db stats >>= fun r =>
        r.append <$> joinResults <$> run (parserStep db) r.stats calls := by
  rw [run, parserStep]
  cases call.process db stats with
  | ok r =>
      simp only [Outcome.ok_bind, Outcome.pure_eq_ok]
      cases run (parserStep db) r.stats calls <;> rfl
  | undefined => rfl
  | outOfFuel => rfl

/-- **A log in parts**: a log that is cut between records may be parsed file by
file.  The results joined are the one of the whole log, and a file faults where
the log does. -/
theorem process_in_parts (db : LogDatabases) (call : ParserCall) {files : List (List UInt8)}
    (h : ∀ file ∈ files, 20 ∣ file.length) (last : List UInt8) (stats : ParserStats) :
    (call.on (files.flatten ++ last)).process db stats =
      joinResults <$> run (parserStep db) stats ((files ++ [last]).map call.on) := by
  induction files generalizing stats with
  | nil =>
      rw [List.flatten_nil, List.nil_append, List.nil_append, List.map_singleton,
        joinResults_run_cons, process_on, bind_map_left, map_eq_pure_bind]
      exact congrArg (processRecords (call.render db) (records 20 last) (.start stats) >>= ·)
        (funext fun run => congrArg Outcome.ok (toResult_append_empty run).symm)
  | cons file files ih =>
      obtain ⟨hfile, hfiles⟩ := List.forall_mem_cons.mp h
      rw [List.flatten_cons, List.append_assoc, process_on_append db call hfile, List.cons_append,
        List.map_cons, joinResults_run_cons]
      exact congrArg ((call.on file).process db stats >>= ·)
        (funext fun r => congrArg (r.append <$> ·) (ih hfiles r.stats))

/-- Two records in two files, and half a record after them. -/
theorem process_in_parts_twoRecords :
    ((textCall []).on ([oneRecord, levelFour].flatten ++ oneRecord.take 10)).process ⟨[], []⟩
        .zero =
      joinResults <$> run (parserStep ⟨[], []⟩) .zero
        (([oneRecord, levelFour] ++ [oneRecord.take 10]).map (textCall []).on) :=
  process_in_parts ⟨[], []⟩ (textCall []) (by decide) (oneRecord.take 10) .zero

/-! ## filters -/

/-- The record validates and passes the filters. -/
def Selected (filters : List ModuleFilter) (record : List UInt8) : Prop :=
  Validates record ∧ logParserShouldOutput filters (.ofBytes record) = true

instance (filters : List ModuleFilter) (record : List UInt8) :
    Decidable (Selected filters record) :=
  inferInstanceAs (Decidable (_ ∧ _))

/-- The file of the records that are selected. -/
def selectedFile (filters : List ModuleFilter) (file : List UInt8) : List UInt8 :=
  ((records 20 file).filter (Selected filters ·)).flatten

section Printed

variable (render : LogEntryBinary → Outcome (List UInt8))

/-- What a record prints. -/
def printed (record : List UInt8) : Outcome (List UInt8) :=
  if Validates record then render (.ofBytes record) else return []

/-- What records print, one after another. -/
def printedAll : List (List UInt8) → Outcome (List UInt8)
  | [] => return []
  | record :: read => do
      let text ← printed render record
      let rest ← printedAll read
      return text ++ rest

theorem output_processRecord (record : List UInt8) (run : ParserRun) :
    ParserRun.output <$> logParserProcessRecord render record run =
      (run.output ++ ·) <$> printed render record := by
  simp only [logParserProcessRecord, printed]
  rw [logParserValidateEntry_eq]
  by_cases hvalid : Validates record
  · have hresult : (logParserValidateEntry (some record) LogEntryBinary.size .zero).1 = 0 := hvalid
    simp only [if_pos hresult, if_pos hvalid]
    cases render (.ofBytes record) <;> rfl
  · have hresult : (logParserValidateEntry (some record) LogEntryBinary.size .zero).1 ≠ 0 := hvalid
    simp only [if_neg hresult, if_neg hvalid, Outcome.pure_eq_ok, Outcome.map_ok, List.append_nil]

/-- **The output of the loop** is what the records print. -/
theorem output_processRecords (read : List (List UInt8)) (run : ParserRun) :
    ParserRun.output <$> processRecords render read run =
      (run.output ++ ·) <$> printedAll render read := by
  induction read generalizing run with
  | nil => simp [processRecords, printedAll]
  | cons record read ih =>
      have hstep : ParserRun.output <$> processRecords render (record :: read) run =
          ParserRun.output <$> logParserProcessRecord render record run >>= fun output =>
            (output ++ ·) <$> printedAll render read := by
        rw [processRecords, List.foldlM_cons, map_bind, bind_map_left]
        exact congrArg (logParserProcessRecord render record run >>= ·) (funext ih)
      rw [hstep, output_processRecord, bind_map_left, printedAll, map_bind]
      refine congrArg (printed render record >>= ·) (funext fun text => ?_)
      cases printedAll render read with
      | ok rest => exact congrArg Outcome.ok (List.append_assoc run.output text rest)
      | undefined => rfl
      | outOfFuel => rfl

theorem output_process (file : List UInt8) (stats : ParserStats) :
    ParserResult.output <$> logParserProcess render (some file) true stats =
      some <$> printedAll render (records 20 file) := by
  have houtput (run : ParserRun) : run.toResult.output = some run.output := rfl
  rw [logParserProcess_eq_fold, Functor.map_map]
  simp only [houtput]
  rw [← Functor.map_map ParserRun.output some, output_processRecords, ParserRun.start]
  simp

/-- Records that are left out print nothing. -/
theorem printedAll_filter {render render' : LogEntryBinary → Outcome (List UInt8)}
    {p : List UInt8 → Bool} (hin : ∀ record, p record = true →
      printed render record = printed render' record)
    (hout : ∀ record, p record = false → printed render record = .ok [])
    (read : List (List UInt8)) : printedAll render read = printedAll render' (read.filter p) := by
  induction read with
  | nil => rfl
  | cons record read ih =>
      rw [printedAll]
      cases hp : p record with
      | true =>
          rw [List.filter_cons_of_pos hp, printedAll, hin record hp, ih]
      | false =>
          have hskip : ¬ p record = true := Bool.eq_false_iff.mp hp
          rw [List.filter_cons_of_neg hskip, hout record hp, ih, Outcome.ok_bind]
          cases printedAll render' (read.filter p) <;> rfl

end Printed

section Filters

variable (db : LogDatabases) (format : OutputFormat) (colorMode : ColorMode)
variable (logFormat : LogFormat) (filters : List ModuleFilter)

/-- The output step without filters. -/
def selectedRender : LogEntryBinary → Outcome (List UInt8) :=
  if format = .text then logParserRenderEx db .text colorMode logFormat []
  else logParserRender db .text

theorem printed_of_selected {record : List UInt8} (h : Selected filters record) :
    printed (logParserRenderEx db format colorMode logFormat filters) record =
      printed (selectedRender db format colorMode logFormat) record := by
  rw [printed, printed, if_pos h.1, if_pos h.1, logParserRenderEx, if_pos h.2, selectedRender]
  split <;> rfl

theorem printed_of_not_selected {record : List UInt8} (h : ¬ Selected filters record) :
    printed (logParserRenderEx db format colorMode logFormat filters) record = .ok [] := by
  rw [printed]
  split
  · next hvalid =>
    rw [logParserRenderEx, if_neg fun hshown => h ⟨hvalid, hshown⟩]
    rfl
  · rfl

theorem records_selectedFile (file : List UInt8) :
    records 20 (selectedFile filters file) =
      (records 20 file).filter (Selected filters ·) := by
  have hlength : ∀ record ∈ (records 20 file).filter (Selected filters ·),
      (id record).length = 20 :=
    fun record hrecord => length_of_mem_records (List.mem_filter.mp hrecord).1
  have hcut := records_flatMap (by decide) hlength
  rwa [List.flatMap_id, List.map_id] at hcut

/-- **Filters select records**: what a run with filters prints, or its fault, is
that of a run without filters on the file of the selected records.  Under a
format that is not text this is a run of the plain path. -/
theorem filters_select_records (file : List UInt8) (stats stats' : ParserStats) :
    ParserResult.output <$> logParserProcessFileEx db (some file) true format colorMode logFormat
        filters stats =
      ParserResult.output <$>
        if format = .text then
          logParserProcessFileEx db (some (selectedFile filters file)) true .text colorMode
            logFormat [] stats'
        else logParserProcessFile db (some (selectedFile filters file)) true .text stats' := by
  have hselected : (if format = .text then
        logParserProcessFileEx db (some (selectedFile filters file)) true .text colorMode
          logFormat [] stats'
      else logParserProcessFile db (some (selectedFile filters file)) true .text stats') =
      logParserProcess (selectedRender db format colorMode logFormat)
        (some (selectedFile filters file)) true stats' := by
    rw [selectedRender]
    split <;> rfl
  rw [hselected, logParserProcessFileEx, output_process, output_process, records_selectedFile]
  refine congrArg (some <$> ·) (printedAll_filter (fun record h => ?_) (fun record h => ?_) _)
  · exact printed_of_selected db format colorMode logFormat filters (of_decide_eq_true h)
  · exact printed_of_not_selected db format colorMode logFormat filters (of_decide_eq_false h)

end Filters

end AutoMlos
