import AutoMlos.Lib.Run
import AutoMlos.LogParser.Extended
import Mathlib.Algebra.Ring.Nat
import Mathlib.Data.Nat.ModEq

/-!
# AutoMlos.LogParser.Statistics

What the counters of the log parser say about the files it has processed.

A record can fail validation in two ways, and only one of them is counted: a
wrong checksum makes an entry corrupted, while a level out of range behind a
right checksum leaves it in the total alone.  So the total is the sum of the
valid and the corrupted entries if and only if there are no records of the
second kind, or so many that the 32-bit counters have come round.
-/

namespace AutoMlos

open Lib

/-! ## calls -/

/-- A call of `log_parser_process_file`, or with further options one of
`log_parser_process_file_ex`. -/
structure ParserCall where
  input : Option (List UInt8)
  outputOpens : Bool
  format : OutputFormat
  extended : Option (ColorMode × LogFormat × List ModuleFilter)
  deriving DecidableEq, Repr

namespace ParserCall

/-- The output step of a call. -/
def render (db : LogDatabases) (call : ParserCall) : LogEntryBinary → Outcome (List UInt8) :=
  match call.extended with
  | none => logParserRender db call.format
  | some (colorMode, logFormat, filters) =>
      logParserRenderEx db call.format colorMode logFormat filters

/-- The call itself. -/
def process (db : LogDatabases) (stats : ParserStats) (call : ParserCall) :
    Outcome ParserResult :=
  match call.extended with
  | none => logParserProcessFile db call.input call.outputOpens call.format stats
  | some (colorMode, logFormat, filters) =>
      logParserProcessFileEx db call.input call.outputOpens call.format colorMode logFormat filters
        stats

theorem process_eq (db : LogDatabases) (stats : ParserStats) (call : ParserCall) :
    call.process db stats =
      logParserProcess (call.render db) call.input call.outputOpens stats := by
  rcases call with ⟨input, outputOpens, format, _ | ⟨colorMode, logFormat, filters⟩⟩ <;> rfl

/-- The records that a call reads. -/
def processed (call : ParserCall) : List (List UInt8) :=
  match call.input, call.outputOpens with
  | some file, true => records 20 file
  | _, _ => []

end ParserCall

/-- The parser after `log_parser_init`, call by call. -/
def parserStep (db : LogDatabases) (stats : ParserStats) (call : ParserCall) :
    Outcome (ParserResult × ParserStats) := do
  let r ← call.process db stats
  return (r, r.stats)

/-! ## records -/

/-- The checksum of a record is that of the bytes before it. -/
def ChecksumRight (record : List UInt8) : Prop :=
  sum16 (record.take 18) = (LogEntryBinary.ofBytes record).checksum

/-- The level of a record is one of the four. -/
def LevelInRange (record : List UInt8) : Prop := (LogEntryBinary.ofBytes record).level.toNat < 4

instance (record : List UInt8) : Decidable (ChecksumRight record) :=
  inferInstanceAs (Decidable (_ = _))

instance (record : List UInt8) : Decidable (LevelInRange record) :=
  inferInstanceAs (Decidable (_ < _))

/-- What validation makes of a record: the result, and what is counted. -/
theorem logParserValidateEntry_cases (record : List UInt8) :
    (¬ ChecksumRight record ∧
      logParserValidateEntry (some record) LogEntryBinary.size .zero = (-1, ⟨0, 0, 1, 0⟩)) ∨
    (ChecksumRight record ∧ ¬ LevelInRange record ∧
      logParserValidateEntry (some record) LogEntryBinary.size .zero = (-1, .zero)) ∨
    (ChecksumRight record ∧ LevelInRange record ∧ ∃ unknown,
      logParserValidateEntry (some record) LogEntryBinary.size .zero =
        (0, ⟨0, 0, 0, unknown⟩)) := by
  have hsize : ¬ LogEntryBinary.size ≠ LogEntryBinary.size := not_not_intro rfl
  simp only [logParserValidateEntry, if_neg hsize]
  by_cases hsum : sum16 (record.take 18) = (LogEntryBinary.ofBytes record).checksum
  · simp only [if_neg (not_not_intro hsum)]
    by_cases hlevel : (LogEntryBinary.ofBytes record).level.toNat ≥ logLevelCount
    · simp only [if_pos hlevel]
      exact .inr (.inl ⟨hsum, Nat.not_lt_of_le hlevel, trivial⟩)
    · simp only [if_neg hlevel]
      refine .inr (.inr ⟨hsum, Nat.lt_of_not_le hlevel, ?_⟩)
      split
      · exact ⟨1, rfl⟩
      · exact ⟨0, rfl⟩
  · simp only [if_pos hsum]
    exact .inl ⟨hsum, rfl⟩

theorem validates_iff (record : List UInt8) :
    Validates record ↔ ChecksumRight record ∧ LevelInRange record := by
  rw [Validates]
  obtain ⟨hsum, h⟩ | ⟨hsum, hlevel, h⟩ | ⟨hsum, hlevel, unknown, h⟩ :=
    logParserValidateEntry_cases record
  · rw [h]
    exact iff_of_false (by decide) fun hright => hsum hright.1
  · rw [h]
    exact iff_of_false (by decide) fun hright => hlevel hright.2
  · rw [h]
    exact iff_of_true rfl ⟨hsum, hlevel⟩

/-- The statistics after one more record. -/
def countRecord (stats : ParserStats) (record : List UInt8) : ParserStats :=
  stats + (contribution (fun _ => []) record).stats

/-- What is counted of a record does not depend on what is printed of it. -/
theorem stats_contribution (text : LogEntryBinary → List UInt8) (record : List UInt8) :
    (contribution text record).stats = (contribution (fun _ => []) record).stats := by
  by_cases hvalid : Validates record
  · simp only [contribution, if_pos hvalid]
  · simp only [contribution, if_neg hvalid]

/-- **One record**: it is in the total, and among the valid or the corrupted
entries by its content. -/
theorem countRecord_eq (stats : ParserStats) (record : List UInt8) :
    (countRecord stats record).totalEntriesParsed = stats.totalEntriesParsed + 1 ∧
    (countRecord stats record).validEntries =
      stats.validEntries + (if ChecksumRight record ∧ LevelInRange record then 1 else 0) ∧
    (countRecord stats record).corruptedEntries =
      stats.corruptedEntries + (if ¬ ChecksumRight record then 1 else 0) := by
  simp only [countRecord, contribution, validates_iff]
  obtain ⟨hsum, h⟩ | ⟨hsum, hlevel, h⟩ | ⟨hsum, hlevel, unknown, h⟩ :=
    logParserValidateEntry_cases record
  · simp [h, hsum, ParserStats.add_def, ParserStats.add]
  · rw [h]
    simp [hsum, hlevel, ParserStats.add_def, ParserStats.add, ParserStats.zero]
  · simp [h, hsum, hlevel, ParserStats.add_def, ParserStats.add]

/-! ## runs -/

/-- A counter that some elements advance is the number of these, in 32 bits. -/
theorem foldl_count {σ α : Type} (counter : σ → UInt32) {step : σ → α → σ} {p : α → Prop}
    [DecidablePred p] (h : ∀ s a, counter (step s a) = counter s + if p a then 1 else 0) (s : σ)
    (as : List α) :
    counter (as.foldl step s) = counter s + UInt32.ofNat (as.countP fun a => p a) := by
  induction as generalizing s with
  | nil => simp
  | cons a as ih =>
      rw [List.foldl_cons, ih, h, List.countP_cons, UInt32.ofNat_add, UInt32.add_assoc,
        UInt32.add_comm (UInt32.ofNat _)]
      by_cases ha : p a <;> simp [ha]

/-- The statistics of a loop over records. -/
theorem stats_contributions (text : LogEntryBinary → List UInt8) (read : List (List UInt8))
    (stats : ParserStats) :
    ((read.map (contribution text)).foldl ParserRun.append (.start stats)).stats =
      read.foldl countRecord stats := by
  rw [stats_foldl_append, List.foldl_map]
  simp only [stats_contribution text]
  rfl

/-- A call that returns has counted its records. -/
theorem parserStep_ok {db : LogDatabases} {stats stats' : ParserStats} {call : ParserCall}
    {r : ParserResult} (h : parserStep db stats call = .ok (r, stats')) :
    stats' = call.processed.foldl countRecord stats := by
  obtain ⟨r', hprocess, hreturn⟩ := Outcome.bind_eq_ok h
  cases hreturn
  rw [ParserCall.process_eq] at hprocess
  rcases call with ⟨_ | file, outputOpens, format, extended⟩
  · cases hprocess
    rfl
  · cases outputOpens with
    | false =>
        cases hprocess
        rfl
    | true =>
        obtain ⟨text, htext, -⟩ := logParserProcess_ok hprocess
        rw [logParserProcess_eq htext] at hprocess
        cases hprocess
        exact stats_contributions text (records 20 file) stats

/-- **A run that returns** has counted the records of all its calls. -/
theorem run_parserStep_ok {db : LogDatabases} {calls : List ParserCall} {rs : List ParserResult}
    {stats stats' : ParserStats} (h : run (parserStep db) stats calls = .ok (rs, stats')) :
    stats' = (calls.flatMap (·.processed)).foldl countRecord stats := by
  induction calls generalizing stats rs with
  | nil =>
      cases h
      rfl
  | cons call calls ih =>
      obtain ⟨⟨r, next⟩, hfirst, hrest⟩ := Outcome.bind_eq_ok h
      obtain ⟨⟨later, last⟩, hrun, hreturn⟩ := Outcome.bind_eq_ok hrest
      cases hreturn
      rw [ih hrun, parserStep_ok hfirst, List.flatMap_cons, List.foldl_append]

/-! ## the partition -/

/-- The counters split the records read so far: the total is the sum of the
valid and the corrupted entries, and those counted as valid are the ones for
which validation returned 0. -/
def ParserStats.Partition (stats : ParserStats) (read : List (List UInt8)) : Prop :=
  stats.totalEntriesParsed.toNat = stats.validEntries.toNat + stats.corruptedEntries.toNat ∧
    stats.validEntries.toNat = read.countP fun record =>
      (logParserValidateEntry (some record) LogEntryBinary.size .zero).1 = 0

instance (stats : ParserStats) (read : List (List UInt8)) : Decidable (stats.Partition read) :=
  inferInstanceAs (Decidable (_ ∧ _))

theorem length_eq_counts (read : List (List UInt8)) :
    read.length = (read.countP fun record => ChecksumRight record ∧ LevelInRange record) +
      (read.countP fun record => ¬ ChecksumRight record) +
      (read.countP fun record => ChecksumRight record ∧ ¬ LevelInRange record) := by
  induction read with
  | nil => rfl
  | cons record read ih =>
      rw [List.length_cons, List.countP_cons, List.countP_cons, List.countP_cons, ih]
      by_cases hsum : ChecksumRight record
      · by_cases hlevel : LevelInRange record
        · simp [hsum, hlevel]
          omega
        · simp [hsum, hlevel]
          omega
      · simp [hsum]
        omega

/-- Three numbers with their sum, in 32 bits. -/
theorem partition_mod_iff (valid corrupted uncounted : Nat) :
    ((valid + corrupted + uncounted) % 2 ^ 32 = valid % 2 ^ 32 + corrupted % 2 ^ 32 ∧
      valid % 2 ^ 32 = valid) ↔
    2 ^ 32 ∣ uncounted ∧ valid + corrupted % 2 ^ 32 < 2 ^ 32 := by
  omega

/-- After any calls of the two processing functions since `log_parser_init`, the
counters split the records read if and only if the number of records with a
right checksum and a level out of range is a multiple of `2 ^ 32`, and the
number of valid ones is small enough to be counted beside the corrupted ones. -/
theorem statistics_partition_iff (db : LogDatabases) (calls : List ParserCall)
    {rs : List ParserResult} {stats : ParserStats}
    (h : run (parserStep db) .zero calls = .ok (rs, stats)) :
    stats.Partition (calls.flatMap (·.processed)) ↔
      2 ^ 32 ∣ ((calls.flatMap (·.processed)).countP fun record =>
          ChecksumRight record ∧ ¬ LevelInRange record) ∧
        ((calls.flatMap (·.processed)).countP fun record =>
            ChecksumRight record ∧ LevelInRange record) +
          ((calls.flatMap (·.processed)).countP fun record => ¬ ChecksumRight record) % 2 ^ 32 <
            2 ^ 32 := by
  rw [run_parserStep_ok h, ← partition_mod_iff]
  generalize calls.flatMap (·.processed) = read
  have htotal := foldl_count (p := fun _ => True) ParserStats.totalEntriesParsed
    (fun s record => by rw [(countRecord_eq s record).1, if_pos trivial]) .zero read
  have hvalid := foldl_count ParserStats.validEntries
    (fun s record => (countRecord_eq s record).2.1) .zero read
  have hcorrupted := foldl_count ParserStats.corruptedEntries
    (fun s record => (countRecord_eq s record).2.2) .zero read
  have hcount : (read.countP fun record =>
      (logParserValidateEntry (some record) LogEntryBinary.size .zero).1 = 0) =
      read.countP fun record => ChecksumRight record ∧ LevelInRange record :=
    List.countP_congr fun record _ => by
      rw [decide_eq_true_eq, decide_eq_true_eq]
      exact validates_iff record
  have hall : (read.countP fun _ => decide True) = read.length := by simp
  rw [ParserStats.Partition, htotal, hvalid, hcorrupted, hcount, hall, length_eq_counts]
  simp only [ParserStats.zero, UInt32.zero_add, UInt32.toNat_ofNat']

/-- The call of the plain path on a file. -/
def textCall (file : List UInt8) : ParserCall where
  input := some file
  outputOpens := true
  format := .text
  extended := none

/-- A record of level 4 with the right checksum. -/
def levelFour : List UInt8 := [0, 0, 0, 0, 0, 0, 4, 0, 0, 0, 0, 0, 0, 0, 0, 0, 0, 0, 4, 0]

/-- A record with a wrong checksum. -/
def wrongSum : List UInt8 := [0, 0, 0, 0, 0, 0, 2, 0, 0, 0, 0, 0, 0, 0, 0, 0, 0, 0, 3, 0]

/-- On the plain path a valid and a corrupted record, and the beginning of a third;
on the extended one, without colours, a record of level 4 between two valid ones. -/
def mixedCalls : List ParserCall :=
  [textCall (oneRecord ++ wrongSum ++ [1, 2, 3]),
    { textCall (oneRecord ++ levelFour ++ oneRecord) with
      extended := some (.never, .minimal, []) }]

/-- Of these five records, three are valid and one is corrupted. -/
theorem statistics_partition_iff_mixedCalls :
    ∃ rs, run (parserStep ⟨[], []⟩) .zero mixedCalls = .ok (rs, ⟨5, 3, 1, 0⟩) ∧
      ((ParserStats.mk 5 3 1 0).Partition (mixedCalls.flatMap (·.processed)) ↔
        2 ^ 32 ∣ ((mixedCalls.flatMap (·.processed)).countP fun record =>
            ChecksumRight record ∧ ¬ LevelInRange record) ∧
          ((mixedCalls.flatMap (·.processed)).countP fun record =>
              ChecksumRight record ∧ LevelInRange record) +
            ((mixedCalls.flatMap (·.processed)).countP fun record =>
              ¬ ChecksumRight record) % 2 ^ 32 < 2 ^ 32) := by
  have hrun : ∃ rs, run (parserStep ⟨[], []⟩) .zero mixedCalls = .ok (rs, ⟨5, 3, 1, 0⟩) :=
    ⟨_, rfl⟩
  obtain ⟨rs, hrun⟩ := hrun
  exact ⟨rs, hrun, statistics_partition_iff ⟨[], []⟩ mixedCalls hrun⟩

/-- It is neither valid nor corrupted. -/
theorem statistics_not_partition :
    ¬ ∀ (db : LogDatabases) (calls : List ParserCall) (rs : List ParserResult)
      (stats : ParserStats), run (parserStep db) .zero calls = .ok (rs, stats) →
        stats.Partition (calls.flatMap (·.processed)) := by
  intro h
  have hpartition := h ⟨[], []⟩ [textCall levelFour]
    [{ result := 0, output := some [], stats := ⟨1, 0, 0, 0⟩, rendered := [] }] ⟨1, 0, 0, 0⟩
    (by decide)
  exact absurd hpartition (by decide)

end AutoMlos
