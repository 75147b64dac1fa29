import AutoMlos.Lib.FileSystem
import AutoMlos.LogCore.Corruption
import AutoMlos.LogCore.Fifo
import AutoMlos.LogParser.RoundTrip

/-!
# AutoMlos.LogParser.Dump

From the log ring over a file to the parser (`save_binary_logs_to_file` of
`tests/comprehensive_log_test.c`).

The ring is emptied into a file entry by entry.  Whatever calls came before, the
file never has anything but entries that were recorded: while the ring is intact
these are the unread entries of the FIFO, and a ring that has failed its
integrity check gives up nothing.  The parser finds all of them valid and prints
them in order.
-/

namespace AutoMlos

open Lib

/-! ## the dump -/

/-- The loop of `save_binary_logs_to_file`, with what its variable holds before
each round: the entries that it has written. -/
def saveEntries (entry : Nat → LogEntryBinary) :
    Nat → Nat → LogSystem → Outcome (LogSystem × List LogEntryBinary)
  | 0, _, log => return (log, [])
  | n + 1, i, log => do
      let (reply, log) ← log.step (.get (entry i))
      let (log, saved) ← saveEntries entry n (i + 1) log
      return (log, reply.returnedEntry.toList ++ saved)

/-- `save_binary_logs_to_file`; every write succeeds. -/
def saveBinaryLogsToFile {File : Type} [DecidableEq File] (files : FileSystem CString File)
    (filename : CString) (entry : Nat → LogEntryBinary) (log : LogSystem) :
    Outcome (FileSystem CString File × LogSystem) :=
  match files.openWrite filename with
  | none => return (files, log)
  | some opened =>
      -- `get_global_log_buffer` is `NULL` before the initialisation
      if log.initialized = false ∨ log.buffer.entryCount = 0 then return (opened, log)
      else do
        let (log, saved) ← saveEntries entry log.buffer.entryCount.toNat 0 log
        return (files.store filename (saved.flatMap LogEntryBinary.toBytes), log)

/-! ## emptying the ring -/

variable {log : LogSystem} (entry : Nat → LogEntryBinary)

/-- As many rounds as there are unread entries take them all, in order. -/
theorem saveEntries_of_holds {unread : List LogEntryBinary} (h : log.HoldsEntries unread)
    (i : Nat) : ∃ log', saveEntries entry unread.length i log = .ok (log', unread) ∧
      log'.HoldsEntries [] := by
  induction unread generalizing log i with
  | nil => exact ⟨log, rfl, h⟩
  | cons e rest ih =>
      obtain ⟨reply, log₁, hstep, ⟨rfl, hheld⟩ | ⟨rfl, -, hcorrupt⟩⟩ :=
        LogSystem.step_outcome h (.get (entry i))
      · obtain ⟨log', hrest, hempty⟩ := ih hheld (i + 1)
        refine ⟨log', ?_, hempty⟩
        rw [List.length_cons, saveEntries, hstep, Outcome.ok_bind]
        simp only [hrest, Outcome.ok_bind]
        rfl
      · -- a get from an intact ring leaves it intact
        obtain ⟨r, hr, hlist⟩ := h
        have hpos : 0 < r.count := by
          rw [← RingBuffer.length_toList, hlist]
          exact Nat.succ_pos _
        obtain ⟨log₂, hget, hheld⟩ := LogSystem.step_get hr hpos (entry i)
        rw [hget] at hstep
        cases hstep

/-- A ring that is not intact gives up nothing. -/
theorem step_of_not_intact (hinit : log.initialized = true) (h : ¬ log.buffer.Intact)
    (call : LogCall) : ∃ reply, log.step call = .ok (reply, log) ∧ reply.returnedEntry = none := by
  have hsound := LogBuffer.not_sound_of_not_intact h
  cases call with
  | record args pid time =>
      by_cases hargs : args.InRange
      · obtain ⟨error, halarm, hput⟩ := logBufferPutSafe_of_not_open
          (fun hopen => hsound hopen.2) (logMakeEntry args pid time)
        refine ⟨⟨error, none⟩, ?_, ite_self none⟩
        simp only [LogSystem.step, logRecordBinarySafe, hinit, if_true, errorCode_logOk,
          ne_eq, not_true_eq_false, if_false, logPrepareEntry_succeed, if_pos hargs, hput,
          Outcome.ok_bind, Outcome.pure_eq_ok, Option.getD_some, halarm.1, not_false_eq_true]
        rw [← hinit]
      · refine ⟨⟨logInvalidParam, none⟩, ?_, ite_self none⟩
        simp [LogSystem.step, logRecordBinarySafe, hinit, logPrepareEntry_succeed, if_neg hargs]
  | get out =>
      obtain ⟨error, halarm, hget⟩ := logBufferGetSafe_of_not_sound hsound out
      refine ⟨⟨error, some out⟩, ?_, if_neg halarm.1⟩
      simp only [LogSystem.step, hget, Outcome.ok_bind, Outcome.pure_eq_ok, Option.getD_some]

theorem saveEntries_of_not_intact (hinit : log.initialized = true) (h : ¬ log.buffer.Intact)
    (n i : Nat) : saveEntries entry n i log = .ok (log, []) := by
  induction n generalizing i with
  | zero => rfl
  | succ n ih =>
      obtain ⟨reply, hstep, hnone⟩ := step_of_not_intact hinit h (.get (entry i))
      rw [saveEntries, hstep, Outcome.ok_bind]
      simp only [ih, Outcome.ok_bind, hnone]
      rfl

/-! ## runs -/

/-- Where a run has come: the log holds the entries of the FIFO, or its ring has
failed the integrity check. -/
def LogSystem.Follows (log : LogSystem) (unread : List LogEntryBinary) : Prop :=
  log.HoldsEntries unread ∨ log.initialized = true ∧ ¬ log.buffer.Intact

/-- One call, wherever the run has come. -/
theorem LogSystem.Follows.step {unread : List LogEntryBinary} (h : log.Follows unread)
    (call : LogCall) :
    ∃ reply log', log.step call = .ok (reply, log') ∧ log'.Follows (fifoStep unread call).2 := by
  obtain hheld | ⟨hinit, hcorrupt⟩ := h
  · obtain ⟨reply, log', hstep, ⟨-, hheld'⟩ | ⟨-, hinit', hcorrupt'⟩⟩ :=
      LogSystem.step_outcome hheld call
    · exact ⟨reply, log', hstep, .inl hheld'⟩
    · exact ⟨reply, log', hstep, .inr ⟨hinit', hcorrupt'⟩⟩
  · obtain ⟨reply, hstep, -⟩ := step_of_not_intact hinit hcorrupt call
    exact ⟨reply, log, hstep, .inr ⟨hinit, hcorrupt⟩⟩

/-- **A run** of any calls. -/
theorem LogSystem.Follows.run {unread : List LogEntryBinary} (h : log.Follows unread)
    (calls : List LogCall) :
    ∃ replies log', run LogSystem.step log calls = .ok (replies, log') ∧
      log'.Follows (mealy fifoStep unread calls).2 := by
  induction calls generalizing log unread with
  | nil => exact ⟨[], log, rfl, h⟩
  | cons call calls ih =>
      obtain ⟨reply, log₁, hstep, h₁⟩ := h.step call
      obtain ⟨replies, log', hrun, h'⟩ := ih h₁
      exact ⟨reply :: replies, log', run_cons_of_eq hstep hrun, h'⟩

/-- What is unread has been accepted, so the parser finds it valid. -/
theorem valid_of_mem_fifo {calls : List LogCall} {e : LogEntryBinary}
    (h : e ∈ (mealy fifoStep [] calls).2) : Valid e := by
  have hsub := (returnedEntries_sublist [] calls).subset (List.mem_append_right _ h)
  obtain ⟨call, -, hcall⟩ := List.mem_filterMap.mp hsub
  cases call with
  | record args pid time =>
      rw [LogCall.acceptedEntry] at hcall
      split at hcall
      · next hargs =>
        cases hcall
        exact ⟨rfl, hargs.1, hargs.2.1, hargs.2.2⟩
      · contradiction
  | get out => contradiction

/-! ## the round trip -/

/-- What the dump of a log writes, and what it leaves: everything that is unread,
or nothing of a ring that is not intact. -/
structure Dumps (log log' : LogSystem) (unread saved : List LogEntryBinary) : Prop where
  intact : log.buffer.Intact → saved = unread ∧ log'.HoldsEntries []
  corrupt : ¬ log.buffer.Intact → saved = [] ∧ log' = log

theorem exists_dump {File : Type} [DecidableEq File] {files : FileSystem CString File}
    {filename : CString} (hopen : files.writable filename = true)
    {unread : List LogEntryBinary} (h : log.Follows unread) :
    ∃ log' saved, Dumps log log' unread saved ∧ saveBinaryLogsToFile files filename entry log =
      .ok (files.store filename (saved.flatMap LogEntryBinary.toBytes), log') := by
  simp only [saveBinaryLogsToFile, FileSystem.openWrite, if_pos hopen]
  obtain hheld | ⟨hinit, hcorrupt⟩ := h
  · obtain ⟨r, hr, -⟩ := id hheld
    by_cases hzero : log.buffer.entryCount = 0
    · have hnil : unread = [] := by
        rw [← List.length_eq_zero_iff, ← hheld.entryCount, hzero]
        rfl
      subst hnil
      rw [if_pos (.inr hzero)]
      exact ⟨log, [], ⟨fun _ => ⟨rfl, hheld⟩, fun h => absurd hr.intact h⟩, rfl⟩
    · have hsome : ¬ (log.initialized = false ∨ log.buffer.entryCount = 0) := by
        rw [hr.initialized]
        exact fun h => h.elim (by simp) hzero
      obtain ⟨log', hsaved, hempty⟩ := saveEntries_of_holds entry hheld 0
      rw [if_neg hsome, hheld.entryCount, hsaved, Outcome.ok_bind]
      exact ⟨log', unread, ⟨fun _ => ⟨rfl, hempty⟩, fun h => absurd hr.intact h⟩, rfl⟩
  · refine ⟨log, [], ⟨fun h => absurd h hcorrupt, fun _ => ⟨rfl, rfl⟩⟩, ?_⟩
    split
    · rfl
    · rw [saveEntries_of_not_intact entry hinit hcorrupt]
      rfl

/-- Every loaded format of a message that there is is content with two data
words. -/
def LogDatabases.SoundForMessages (db : LogDatabases) : Prop :=
  ∀ entry ∈ db.formats, entry.messageId.toNat < logMsgCount →
    ∀ data0 data1, ∃ text, printf entry.formatString [data0, data1] = .ok text

/-- So every valid entry has a line. -/
theorem logParserRender_of_valid {db : LogDatabases} (h : db.SoundForMessages)
    {entry : LogEntryBinary} (hvalid : Valid entry) :
    logParserRender db .text entry = .ok (plainText db entry) := by
  refine logParserRender_of_format fun found hfound hid => ?_
  have hmessage : found.messageId.toNat < logMsgCount := hid ▸ hvalid.message
  exact h found hfound hmessage entry.data0 entry.data1

/-- What the parser makes of a file of valid entries. -/
theorem logParserProcessFile_toBytes {db : LogDatabases} (h : db.SoundForMessages)
    {entries : List LogEntryBinary} (hvalid : ∀ e ∈ entries, Valid e) (stats : ParserStats) :
    logParserProcessFile db (some (entries.flatMap LogEntryBinary.toBytes)) true .text stats =
      .ok {
        result := 0
        output := some (entries.flatMap (plainText db))
        stats := stats + ⟨.ofNat entries.length, .ofNat entries.length, 0, 0⟩
        rendered := entries } := by
  have hrecords : records 20 (entries.flatMap LogEntryBinary.toBytes) =
      entries.map LogEntryBinary.toBytes :=
    records_flatMap (by decide) fun e _ => e.length_toBytes
  have hrender : ∀ entry ∈ validEntries (entries.flatMap LogEntryBinary.toBytes),
      logParserRender db .text entry = .ok (plainText db entry) := by
    intro entry hentry
    rw [validEntries, hrecords] at hentry
    obtain ⟨record, hrecord, rfl⟩ := List.mem_map.mp hentry
    obtain ⟨e, he, rfl⟩ := List.mem_map.mp (List.mem_of_mem_filter hrecord)
    rw [LogEntryBinary.ofBytes_toBytes]
    exact logParserRender_of_valid h (hvalid e he)
  rw [logParserProcessFile, logParserProcess_eq hrender, hrecords, List.map_map]
  exact congrArg (fun run => Outcome.ok run.toResult) (foldl_contribution_toBytes hvalid _)

/-- For every run of record and get calls after the initialisation and every file
that can be opened, the dump of the log returns.  An intact log is left empty, and
the parser finds in the file the unread entries of the FIFO, all of them valid,
and prints them in order, with any databases whose formats of the messages that
there are take two data words; a log that has failed its integrity check is left
as it is, and the file is empty. -/
theorem dump_round_trip {File : Type} [DecidableEq File] {db : LogDatabases}
    (hdb : db.SoundForMessages) (calls : List LogCall) (files : FileSystem CString File)
    {filename : CString}
    (hopen : files.writable filename = true) (entry : Nat → LogEntryBinary) :
    ∃ replies log files' log' saved, run LogSystem.step .init calls = .ok (replies, log) ∧
      saveBinaryLogsToFile files filename entry log = .ok (files', log') ∧
      Dumps log log' (mealy fifoStep [] calls).2 saved ∧
      (∀ path, files.file path ≠ files.file filename → files'.read path = files.read path) ∧
      ∀ stats, logParserProcessFile db (files'.read filename) true .text stats = .ok {
        result := 0
        output := some (saved.flatMap (plainText db))
        stats := stats + ⟨.ofNat saved.length, .ofNat saved.length, 0, 0⟩
        rendered := saved } := by
  have hstart : LogSystem.init.Follows [] := .inl LogSystem.holdsEntries_init
  obtain ⟨replies, log, hrun, hfollows⟩ := hstart.run calls
  obtain ⟨log', saved, hdumps, hsave⟩ := exists_dump entry hopen hfollows
  refine ⟨replies, log, _, log', saved, hrun, hsave, hdumps,
    fun path hpath => FileSystem.read_store_of_ne hpath, fun stats => ?_⟩
  have hvalid : ∀ e ∈ saved, Valid e := by
    intro e he
    by_cases hintact : log.buffer.Intact
    · rw [(hdumps.intact hintact).1] at he
      exact valid_of_mem_fifo he
    · rw [(hdumps.corrupt hintact).1] at he
      contradiction
  rw [FileSystem.read_store_of_eq rfl]
  exact logParserProcessFile_toBytes hdb hvalid stats

/-- A file system whose only file can be opened. -/
def dumpFiles : FileSystem CString Unit where
  file _ := ()
  contents _ := none
  writable _ := true

/-- Shipped formats, the last of which takes three data words and belongs to no
message that there is. -/
def shippedDatabases : LogDatabases where
  formats := sampleDatabases.formats ++
    [⟨45, .ofAscii "Security violation: user %u, resource %u, action %u"⟩]
  tags := sampleDatabases.tags

theorem soundForMessages_shippedDatabases : shippedDatabases.SoundForMessages := by
  intro entry hentry hmessage data0 data1
  rcases List.mem_append.mp hentry with hsample | hother
  · exact sound_sampleDatabases entry hsample data0 data1
  · rw [List.mem_singleton.mp hother] at hmessage
    exact absurd hmessage (by decide)

/-- An entry is recorded and read, and another one recorded. -/
def oneUnread : List LogCall :=
  [.record ⟨1, 0, 2, 7, 0⟩ 123 1000, .get .zero, .record ⟨2, 0, 6, 8, 9⟩ 123 1001]

/-- The name of the dump. -/
def dumpName : CString := .ofAscii "comprehensive_test.bin"

/-- The dump of a log with one entry read and one unread. -/
theorem dump_round_trip_oneUnread :
    ∃ replies log files' log' saved, run LogSystem.step .init oneUnread = .ok (replies, log) ∧
      saveBinaryLogsToFile dumpFiles dumpName (fun _ => .zero) log = .ok (files', log') ∧
      Dumps log log' (mealy fifoStep [] oneUnread).2 saved ∧
      (∀ path, dumpFiles.file path ≠ dumpFiles.file dumpName →
        files'.read path = dumpFiles.read path) ∧
      ∀ stats, logParserProcessFile shippedDatabases (files'.read dumpName) true .text stats = .ok {
        result := 0
        output := some (saved.flatMap (plainText shippedDatabases))
        stats := stats + ⟨.ofNat saved.length, .ofNat saved.length, 0, 0⟩
        rendered := saved } :=
  dump_round_trip soundForMessages_shippedDatabases oneUnread dumpFiles
    (show dumpFiles.writable dumpName = true from rfl) fun _ => .zero

end AutoMlos
