import AutoMlos.LogCore.Fifo
import AutoMlos.LogCore.Guards

/-!
# AutoMlos.LogCore.TimeOrder

The order of the log and the order of the clock.

A log hands out its entries in the order it recorded them (`LogSystem.step_yields`
extends the FIFO to logs that a put has left corrupt: these hand out nothing).
The timestamp field is the low word of a 64-bit clock reading.  So the
timestamps handed out are in order as long as the clock stays within one
period of 2^32 microseconds, and in general exactly when the low words of the
readings are.
-/

namespace AutoMlos

open Lib

/-! ## what any log hands out -/

/-- A log whose buffer fails its check. -/
structure LogSystem.Broken (log : LogSystem) : Prop where
  initialized : log.initialized = true
  not_sound : ¬ log.buffer.Sound

/-- The log will hand out at most these entries, and in this order. -/
def LogSystem.Yields (log : LogSystem) (unread : List LogEntryBinary) : Prop :=
  log.HoldsEntries unread ∨ (log.Broken ∧ unread = [])

theorem LogSystem.Yields.initialized {log : LogSystem} {unread : List LogEntryBinary}
    (h : log.Yields unread) : log.initialized = true := by
  rcases h with ⟨r, hr, -⟩ | ⟨hbroken, -⟩
  · exact hr.initialized
  · exact hbroken.initialized

theorem returnedEntry_of_alarm {error : SystemError} (h : Alarm error)
    (entry : Option LogEntryBinary) :
    LogReply.returnedEntry { error, entry } = none :=
  if_neg h.1

/-- A broken log answers every call with an error, and stays as it is. -/
theorem LogSystem.Broken.step {log : LogSystem} (h : log.Broken) (call : LogCall) :
    ∃ reply, log.step call = .ok (reply, log) ∧ reply.returnedEntry = none := by
  cases call with
  | record args pid time =>
      by_cases hargs : args.InRange
      · have hclosed : ¬ log.buffer.Open := fun hopen => h.not_sound hopen.2
        obtain ⟨error, halarm, hput⟩ :=
          logBufferPutSafe_of_not_open hclosed (logMakeEntry args pid time)
        refine ⟨{ error, entry := none }, ?_, returnedEntry_of_alarm halarm none⟩
        simp only [LogSystem.step, logRecordBinarySafe, h.initialized, if_true, errorCode_logOk,
          ne_eq, not_true_eq_false, if_false, logPrepareEntry_succeed, if_pos hargs, hput,
          Outcome.ok_bind, Outcome.pure_eq_ok, Option.getD_some, if_pos halarm.1]
        rw [← h.initialized]
      · have hcode : logInvalidParam.errorCode ≠ errBaseOk := by decide
        refine ⟨{ error := logInvalidParam, entry := none }, ?_, if_neg hcode⟩
        simp [LogSystem.step, logRecordBinarySafe, h.initialized, logPrepareEntry_succeed,
          if_neg hargs]
  | get out =>
      obtain ⟨error, halarm, hget⟩ := logBufferGetSafe_of_not_sound h.not_sound out
      refine ⟨{ error, entry := some out }, ?_, returnedEntry_of_alarm halarm (some out)⟩
      simp only [LogSystem.step, hget, Outcome.ok_bind, Outcome.pure_eq_ok, Option.getD_some]

/-- **One call on any log**: what it returns and leaves is an ordered selection
of what was held and what it accepted. -/
theorem LogSystem.step_yields (log : LogSystem) (unread : List LogEntryBinary) (call : LogCall)
    (h : log.Yields unread) :
    ∃ reply log' unread', log.step call = .ok (reply, log') ∧ log'.Yields unread' ∧
      (reply.returnedEntry.toList ++ unread').Sublist
        (unread ++ call.acceptedEntry.toList) := by
  rcases h with hlog | ⟨hbroken, rfl⟩
  · obtain ⟨reply, log', hstep, ⟨rfl, hlog'⟩ | ⟨rfl, hinit, hcorrupt⟩⟩ :=
      LogSystem.step_outcome hlog call
    · exact ⟨_, log', _, hstep, Or.inl hlog', fifoStep_sublist unread call⟩
    · have hbroken : log'.Broken := ⟨hinit, fun hsound => hcorrupt hsound.intact⟩
      refine ⟨_, log', [], hstep, Or.inr ⟨hbroken, rfl⟩, ?_⟩
      simp [LogReply.returnedEntry, errorCode_logCorrupt_ne]
  · obtain ⟨reply, hstep, hnone⟩ := hbroken.step call
    refine ⟨reply, log, [], hstep, Or.inr ⟨hbroken, rfl⟩, ?_⟩
    simp [hnone]

/-! ## calls and the clock -/

/-- A call while the clock can be read.  `sys_getpid` may fail, and the get may
be given `NULL`. -/
inductive ClockedCall where
  | record (args : LogArgs) (pid : SystemError × UInt16) (time : UInt64)
  | get (out : Option LogEntryBinary)
  deriving DecidableEq, Repr

/-- One such call on the global log. -/
def LogSystem.clockedStep (log : LogSystem) : ClockedCall → Outcome (LogReply × LogSystem)
  | .record args pid time => do
      let sys := { pid, time := (SysReadings.succeed 0 time).time }
      let (error, log) ← logRecordBinarySafe log args sys
      return ({ error, entry := none }, log)
  | .get out => do
      let (error, buffer, entry) ← logBufferGetSafe (some log.buffer) out
      return ({ error, entry }, { log with buffer := buffer.getD log.buffer })

/-- The call of the logging API that it comes to, unless the pid or the pointer
is missing. -/
def ClockedCall.served : ClockedCall → Option LogCall
  | .record args pid time =>
      if pid.1.errorCode = errBaseOk then some (.record args pid.2 time) else none
  | .get out => out.map LogCall.get

/-- The clock reading a call of the logging API takes: a record reads the clock
once its arguments are accepted. -/
def LogCall.clockReading : LogCall → Option UInt64
  | .record args _ time => if args.InRange then some time else none
  | .get _ => none

/-- The clock reading a call takes. -/
def ClockedCall.clockReading (call : ClockedCall) : Option UInt64 :=
  call.served.bind LogCall.clockReading

/-- The entry an accepted record call makes. -/
def ClockedCall.acceptedEntry (call : ClockedCall) : Option LogEntryBinary :=
  call.served.bind LogCall.acceptedEntry

/-- The timestamps of the entries that the gets of a run return, in order. -/
def logTimestamps (calls : List ClockedCall) : Outcome (List UInt32) := do
  let (replies, _) ← run LogSystem.clockedStep .init calls
  return (replies.filterMap LogReply.returnedEntry).map LogEntryBinary.timestamp

theorem LogSystem.clockedStep_of_served {call : ClockedCall} {served : LogCall}
    (h : call.served = some served) (log : LogSystem) :
    log.clockedStep call = log.step served := by
  cases call with
  | record args pid time =>
      simp only [ClockedCall.served, Option.ite_none_right_eq_some, Option.some.injEq] at h
      obtain ⟨hpid, rfl⟩ := h
      have hprepare : logPrepareEntry args { pid, time := (SysReadings.succeed 0 time).time } =
          logPrepareEntry args (.succeed pid.2 time) := by
        simp [logPrepareEntry, SysReadings.succeed, systemErrorCreate, hpid]
      simp only [LogSystem.clockedStep, LogSystem.step, logRecordBinarySafe, hprepare]
  | get out =>
      obtain ⟨out, rfl, rfl⟩ := Option.map_eq_some_iff.mp h
      rfl

/-- A call without a pid or a pointer answers with an error and changes nothing. -/
theorem LogSystem.clockedStep_of_not_served {call : ClockedCall} (h : call.served = none)
    {log : LogSystem} (hinit : log.initialized = true) :
    ∃ reply, log.clockedStep call = .ok (reply, log) ∧ reply.returnedEntry = none := by
  cases call with
  | record args pid time =>
      have hpid : pid.1.errorCode ≠ errBaseOk := by simpa [ClockedCall.served] using h
      by_cases hargs : args.InRange
      · refine ⟨{ error := pid.1, entry := none }, ?_, if_neg hpid⟩
        simp [LogSystem.clockedStep, logRecordBinarySafe, hinit, logPrepareEntry, logCheckArgs_eq,
          hargs, hpid]
      · have hcode : logInvalidParam.errorCode ≠ errBaseOk := by decide
        refine ⟨{ error := logInvalidParam, entry := none }, ?_, if_neg hcode⟩
        simp [LogSystem.clockedStep, logRecordBinarySafe, hinit, logPrepareEntry, logCheckArgs_eq,
          hargs]
  | get out =>
      have hcode : (logCritical errSafeCriticalNull).errorCode ≠ errBaseOk := by decide
      cases Option.map_eq_none_iff.mp h
      exact ⟨{ error := logCritical errSafeCriticalNull, entry := none }, rfl, if_neg hcode⟩

/-- **One call while the clock can be read**: likewise. -/
theorem LogSystem.clockedStep_yields (log : LogSystem) (unread : List LogEntryBinary)
    (call : ClockedCall) (h : log.Yields unread) :
    ∃ reply log' unread', log.clockedStep call = .ok (reply, log') ∧ log'.Yields unread' ∧
      (reply.returnedEntry.toList ++ unread').Sublist
        (unread ++ call.acceptedEntry.toList) := by
  cases hserved : call.served with
  | some served =>
      rw [clockedStep_of_served hserved, ClockedCall.acceptedEntry, hserved]
      exact log.step_yields unread served h
  | none =>
      obtain ⟨reply, hstep, hnone⟩ := clockedStep_of_not_served hserved h.initialized
      refine ⟨reply, log, unread, hstep, h, ?_⟩
      simp [hnone, ClockedCall.acceptedEntry, hserved]

/-- The entry a record makes carries the low word of the reading it took. -/
theorem LogCall.acceptedEntry_timestamp (call : LogCall) :
    call.acceptedEntry.map LogEntryBinary.timestamp =
      call.clockReading.map UInt64.toUInt32 := by
  cases call with
  | record args pid time =>
      by_cases hargs : args.InRange
      · simp [LogCall.acceptedEntry, LogCall.clockReading, hargs, logMakeEntry]
      · simp [LogCall.acceptedEntry, LogCall.clockReading, hargs]
  | get out => rfl

theorem ClockedCall.acceptedEntry_timestamp (call : ClockedCall) :
    call.acceptedEntry.map LogEntryBinary.timestamp =
      call.clockReading.map UInt64.toUInt32 := by
  rw [acceptedEntry, clockReading, Option.map_bind, Option.map_bind]
  exact Option.bind_congr fun served _ => served.acceptedEntry_timestamp

theorem acceptedEntries_timestamps (calls : List ClockedCall) :
    (calls.filterMap ClockedCall.acceptedEntry).map LogEntryBinary.timestamp =
      (calls.filterMap ClockedCall.clockReading).map UInt64.toUInt32 := by
  rw [List.map_filterMap, List.map_filterMap]
  exact List.filterMap_congr fun call _ => call.acceptedEntry_timestamp

/-- The timestamps handed out are the low words of readings in the order in
which they were taken. -/
theorem logTimestamps_sublist (calls : List ClockedCall) :
    ∃ readings : List UInt64, readings.Sublist (calls.filterMap ClockedCall.clockReading) ∧
      logTimestamps calls = .ok (readings.map UInt64.toUInt32) := by
  have hinit : LogSystem.init.Yields [] := Or.inl LogSystem.holdsEntries_init
  obtain ⟨replies, log', unread, hrun, -, hsub⟩ :=
    run_sublist LogSystem.clockedStep_yields hinit calls
  have hreturned : (replies.filterMap LogReply.returnedEntry).Sublist
      (calls.filterMap ClockedCall.acceptedEntry) :=
    (List.sublist_append_left _ unread).trans hsub
  have htimestamps := hreturned.map LogEntryBinary.timestamp
  rw [acceptedEntries_timestamps] at htimestamps
  obtain ⟨readings, hreadings, heq⟩ := List.sublist_map_iff.mp htimestamps
  refine ⟨readings, hreadings, ?_⟩
  simp only [logTimestamps, hrun, Outcome.ok_bind, Outcome.pure_eq_ok, heq]

/-! ## time order -/

/-- The 32-bit timestamp of a reading. -/
theorem toNat_timestamp (t : UInt64) : t.toUInt32.toNat = t.toNat % 2 ^ 32 :=
  UInt64.toNat_toUInt32 t

theorem pairwise_timestamps_iff (readings : List UInt64) :
    (readings.map UInt64.toUInt32).Pairwise (· ≤ ·) ↔
      readings.Pairwise fun t t' => t.toNat % 2 ^ 32 ≤ t'.toNat % 2 ^ 32 := by
  simp only [List.pairwise_map, UInt32.le_iff_toNat_le, toNat_timestamp]

/-- Within one period of the low word, readings in order have low words in
order. -/
theorem pairwise_timestamps_of_period {readings : List UInt64} (hle : readings.Pairwise (· ≤ ·))
    (hperiod : ∀ t ∈ readings, ∀ t' ∈ readings, t.toNat / 2 ^ 32 = t'.toNat / 2 ^ 32) :
    readings.Pairwise fun t t' => t.toNat % 2 ^ 32 ≤ t'.toNat % 2 ^ 32 := by
  refine hle.imp_of_mem fun {t t'} ht ht' htt' => ?_
  have hsame := hperiod t ht t' ht'
  have hle := UInt64.le_iff_toNat_le.mp htt'
  omega

/-- **Log order is the order of the low words of the clock**: the timestamps
returned are the low words of readings in recording order; they are in order
exactly when these low words are, and so they are while the readings stay in
one period of 2^32 microseconds. -/
theorem log_order_is_low_word_order (calls : List ClockedCall)
    (hclock : (calls.filterMap ClockedCall.clockReading).Pairwise (· ≤ ·)) :
    ∃ (timestamps : List UInt32) (readings : List UInt64),
      logTimestamps calls = .ok timestamps ∧
      readings.Sublist (calls.filterMap ClockedCall.clockReading) ∧
      timestamps = readings.map UInt64.toUInt32 ∧
      (timestamps.Pairwise (· ≤ ·) ↔
        readings.Pairwise fun t t' => t.toNat % 2 ^ 32 ≤ t'.toNat % 2 ^ 32) ∧
      ((∀ t ∈ readings, ∀ t' ∈ readings, t.toNat / 2 ^ 32 = t'.toNat / 2 ^ 32) →
        timestamps.Pairwise (· ≤ ·)) := by
  obtain ⟨readings, hsub, htimestamps⟩ := logTimestamps_sublist calls
  refine ⟨_, readings, htimestamps, hsub, rfl, pairwise_timestamps_iff readings, ?_⟩
  intro hperiod
  rw [pairwise_timestamps_iff]
  exact pairwise_timestamps_of_period (hclock.sublist hsub) hperiod

/-- Two records one microsecond apart, and a get for each, from this time on. -/
def recordsFrom (time : UInt64) : List ClockedCall :=
  let pid := (SysReadings.succeed 123 0).pid
  [.record ⟨1, 0, 0, 0, 0⟩ pid time, .record ⟨1, 0, 0, 0, 0⟩ pid (time + 1),
    .get (some .zero), .get (some .zero)]

/-- In the first period. -/
theorem log_order_is_low_word_order_recordsFrom :
    ∃ (timestamps : List UInt32) (readings : List UInt64),
      logTimestamps (recordsFrom 1000) = .ok timestamps ∧
      readings.Sublist ((recordsFrom 1000).filterMap ClockedCall.clockReading) ∧
      timestamps = readings.map UInt64.toUInt32 ∧
      (timestamps.Pairwise (· ≤ ·) ↔
        readings.Pairwise fun t t' => t.toNat % 2 ^ 32 ≤ t'.toNat % 2 ^ 32) ∧
      ((∀ t ∈ readings, ∀ t' ∈ readings, t.toNat / 2 ^ 32 = t'.toNat / 2 ^ 32) →
        timestamps.Pairwise (· ≤ ·)) :=
  log_order_is_low_word_order _ (by decide)

/-- Across the end of a period the later entry has the smaller timestamp. -/
theorem log_order_not_always_time_order :
    ¬ ∀ calls : List ClockedCall, (calls.filterMap ClockedCall.clockReading).Pairwise (· ≤ ·) →
      ∃ timestamps, logTimestamps calls = .ok timestamps ∧ timestamps.Pairwise (· ≤ ·) := by
  intro h
  obtain ⟨timestamps, heq, hordered⟩ := h (recordsFrom 0xFFFFFFFF) (by decide)
  have hrun : logTimestamps (recordsFrom 0xFFFFFFFF) = .ok [0xFFFFFFFF, 0] := by decide +kernel
  rw [hrun] at heq
  cases heq
  revert hordered
  decide

end AutoMlos
