import AutoMlos.Lib.Buckets
import AutoMlos.Lib.Run
import AutoMlos.LoggerService

/-!
# AutoMlos.LoggerService.Contents

What the level buffers of the logger service hold.

A message is accepted when it is a record of 20 bytes whose library checksum
verifies.  The conversion to a service entry changes no byte of it
(`toBytes_ofLogEntry`), so the service's own check repeats the library's one
and each level buffer holds the first 100 accepted records of its level
(`service_contents`).
-/

namespace AutoMlos

open Lib

/-! ## records and entries -/

theorem payloadBytes_ofLogEntry (e : LogEntryBinary) :
    (LoggerServiceEntry.ofLogEntry e).payloadBytes = e.payloadBytes := rfl

/-- Both checksums are the byte sum of the same 18 bytes. -/
theorem checksum_ofLogEntry (e : LogEntryBinary) :
    (LoggerServiceEntry.ofLogEntry e).checksum = logCalculateChecksum (some e) := by
  have hsum : (LoggerServiceEntry.ofLogEntry e).checksum = (sum32 e.payloadBytes).toUInt16 := rfl
  rw [hsum, toUInt16_sum32, logCalculateChecksum]

/-- **The conversion is the identity on bytes** of a record that verifies. -/
theorem toBytes_ofLogEntry {e : LogEntryBinary} (h : logCalculateChecksum (some e) = e.checksum) :
    (LoggerServiceEntry.ofLogEntry e).toBytes = e.toBytes := by
  rw [LoggerServiceEntry.toBytes, payloadBytes_ofLogEntry, checksum_ofLogEntry, h,
    LogEntryBinary.toBytes]

/-- The service's check of a converted entry is left with the level. -/
theorem loggerServiceVerifyEntryIntegrity_ofLogEntry (e : LogEntryBinary) :
    loggerServiceVerifyEntryIntegrity (.ofLogEntry e) = decide (e.level.toNat < 6) := by
  have hchecksum : (LoggerServiceEntry.ofLogEntry e).checksum =
      loggerServiceCalculateChecksum (.ofLogEntry e) := rfl
  have hlevel : (LoggerServiceEntry.ofLogEntry e).level = e.level := rfl
  rw [loggerServiceVerifyEntryIntegrity, if_neg (not_not.mpr hchecksum), hlevel,
    loggerServiceLevelCount]
  by_cases h : e.level.toNat < 6
  · simp [h]
  · simp [h, Nat.le_of_not_lt h]

namespace ServiceMessage

/-- The record of a message of size 20 whose library checksum verifies. -/
def validRecord (m : ServiceMessage) : Option LogEntryBinary :=
  match m.data with
  | none => none
  | some bytes =>
      let record := LogEntryBinary.ofBytes bytes
      if m.size = 20 ∧ logCalculateChecksum (some record) = record.checksum then some record
      else none

/-- The bytes of a message that is accepted. -/
def acceptedBytes (m : ServiceMessage) : Option (List UInt8) :=
  if m.validRecord.isSome then m.data else none

/-- The answer to a message: it depends on the message alone. -/
def verdict (m : ServiceMessage) : SystemError :=
  if m.data = none ∨ m.size < 20 then logCritical errSafeCriticalNull
  else if m.size ≠ 20 then logCritical errBaseInvalidSize
  else if m.validRecord.isSome then loggerServiceOk
  else systemErrorCreate errBaseDataCorrupt .system .high moduleIdLogging

theorem validRecord_eq_some {m : ServiceMessage} {e : LogEntryBinary} (h : m.validRecord = some e) :
    m.size = 20 ∧ logCalculateChecksum (some e) = e.checksum ∧
      ∃ bytes, m.data = some bytes ∧ e = .ofBytes bytes := by
  unfold validRecord at h
  cases hdata : m.data with
  | none =>
      rw [hdata] at h
      contradiction
  | some bytes =>
      rw [hdata] at h
      dsimp only at h
      split at h
      · rename_i hvalid
        cases h
        exact ⟨hvalid.1, hvalid.2, bytes, rfl, rfl⟩
      · contradiction

/-- The bytes of an accepted message are those of its record. -/
theorem toBytes_validRecord {m : ServiceMessage} {e : LogEntryBinary} (h : m.validRecord = some e) :
    m.acceptedBytes = some e.toBytes := by
  obtain ⟨hsize, -, bytes, hdata, rfl⟩ := validRecord_eq_some h
  have hlen : bytes.length = LogEntryBinary.size := (m.readable bytes hdata).trans hsize
  rw [acceptedBytes, h, LogEntryBinary.toBytes_ofBytes hlen, hdata]
  rfl

theorem verdict_of_some {m : ServiceMessage} (h : m.validRecord = some e) :
    m.verdict = loggerServiceOk := by
  obtain ⟨hsize, -, bytes, hdata, -⟩ := validRecord_eq_some h
  have hnotNull : ¬ (m.data = none ∨ m.size < 20) := by simp [hdata, hsize]
  rw [verdict, if_neg hnotNull, if_neg (not_not.mpr hsize), h, if_pos (by rfl)]

/-- A message is answered with success exactly when it is a valid record. -/
theorem errorCode_verdict_iff (m : ServiceMessage) :
    m.verdict.errorCode = errBaseOk ↔ m.validRecord.isSome := by
  by_cases hvalid : m.validRecord.isSome
  · obtain ⟨e, he⟩ := Option.isSome_iff_exists.mp hvalid
    rw [verdict_of_some he]
    exact iff_of_true rfl hvalid
  · have hcode : ∀ error ∈ [logCritical errSafeCriticalNull, logCritical errBaseInvalidSize,
        systemErrorCreate errBaseDataCorrupt .system .high moduleIdLogging],
        error.errorCode ≠ errBaseOk := by decide
    refine iff_of_false ?_ hvalid
    rw [verdict, if_neg hvalid]
    split_ifs
    · exact hcode _ (by simp)
    · exact hcode _ (by simp)
    · exact hcode _ (by simp)

end ServiceMessage

/-! ## one level buffer -/

/-- The buffer holds exactly these entries. -/
structure LoggerServiceBuffer.Holds (b : LoggerServiceBuffer) (es : List LoggerServiceEntry) :
    Prop where
  length_le : es.length ≤ 100
  held : b.held = es
  count : b.entryCount.toNat = es.length
  write : b.writeIndex.toNat = es.length % 100
  size : b.bufferSize = 100

theorem LoggerServiceBuffer.holds_init : loggerServiceBufferInit.Holds [] :=
  ⟨Nat.zero_le _, rfl, rfl, rfl, rfl⟩

/-- **A put** of an entry that verifies appends it while there is room. -/
theorem loggerServiceBufferPut_spec {b : LoggerServiceBuffer} {es : List LoggerServiceEntry}
    (h : b.Holds es) {e : LoggerServiceEntry} (he : loggerServiceVerifyEntryIntegrity e = true) :
    ∃ result b', loggerServiceBufferPut b e = .ok (result, b') ∧
      b'.Holds ((es ++ [e]).take 100) := by
  have hle := h.length_le
  have hsize : b.bufferSize.toNat = 100 := by rw [h.size]; rfl
  have hfull : b.entryCount ≥ b.bufferSize ↔ 100 ≤ es.length := by
    rw [ge_iff_le, UInt16.le_iff_toNat_le, hsize, h.count]
  rw [loggerServiceBufferPut, he, if_neg (by decide)]
  by_cases hroom : 100 ≤ es.length
  · rw [if_pos (hfull.mpr hroom), List.take_append_of_le_length hroom,
      List.take_of_length_le hle]
    exact ⟨-1, b, rfl, h⟩
  · have hw : b.writeIndex.toNat = es.length := by
      rw [h.write, Nat.mod_eq_of_lt (Nat.lt_of_not_le hroom)]
    have hlt : b.writeIndex.toNat < 100 := hw ▸ Nat.lt_of_not_le hroom
    have hlen : (es ++ [e]).length = es.length + 1 := List.length_append
    have hcount : (b.entryCount + 1).toNat = es.length + 1 := by
      rw [UInt16.toNat_add, h.count, UInt16.toNat_one]
      omega
    have hheld : b.entries.toList.take es.length = es := by
      have hheld := h.held
      rwa [LoggerServiceBuffer.held, h.count] at hheld
    rw [if_neg (mt hfull.mp hroom), hsize, Outcome.writeAt_of_lt _ _ hlt,
      List.take_of_length_le (by omega)]
    refine ⟨0, _, rfl, ?_⟩
    exact
      { length_le := by omega
        held := by
          simp only [LoggerServiceBuffer.held, hcount, hw, Vector.toList_set]
          rw [take_succ_set _ (by rw [Vector.length_toList]; omega), hheld]
        count := by rw [hlen, hcount]
        write := by
          simp only [hlen, hw, UInt16.toNat_ofNat']
          omega
        size := h.size }

/-! ## the service -/

namespace ServiceMessage

/-- The valid records of a level among the messages, in arrival order. -/
def recordsOf (messages : List ServiceMessage) (level : Nat) : List LogEntryBinary :=
  bucket (fun e => e.level.toNat) level (messages.filterMap validRecord)

theorem recordsOf_append (ms ns : List ServiceMessage) (level : Nat) :
    recordsOf (ms ++ ns) level = recordsOf ms level ++ recordsOf ns level := by
  rw [recordsOf, List.filterMap_append, bucket_append, recordsOf, recordsOf]

theorem recordsOf_of_none {m : ServiceMessage} (h : m.validRecord = none) (level : Nat) :
    recordsOf [m] level = [] := by
  rw [recordsOf, List.filterMap_cons_none h, List.filterMap_nil, bucket_nil]

theorem recordsOf_of_some {m : ServiceMessage} (h : m.validRecord = some e) (level : Nat) :
    recordsOf [m] level = if e.level.toNat = level then [e] else [] := by
  rw [recordsOf, List.filterMap_cons_some h, List.filterMap_nil, bucket_singleton]

end ServiceMessage

open ServiceMessage

/-- A running service whose level buffers hold the first 100 valid records of
their level among the messages. -/
structure LoggerService.Holds (service : LoggerService) (messages : List ServiceMessage) :
    Prop where
  running : service.serviceRunning = true
  buffer : ∀ level : Fin 6, (service.levelBuffer level).Holds
    (((recordsOf messages level).map .ofLogEntry).take 100)

theorem LoggerService.levelBuffer_eq (service : LoggerService) (level : Fin 6) :
    service.levelBuffer level = service.levelBuffers[level.val] := rfl

theorem LoggerService.holds_init (service : LoggerService) (time : SystemError × UInt64) :
    (loggerServiceInit service time).2.Holds [] := by
  have hregister : ¬ (sysIpcRegisterTopic (some loggerServiceName)).errorCode ≠ errBaseOk := by
    decide
  have hempty (level : Fin 6) :
      (Vector.replicate 6 loggerServiceBufferInit)[level.val].Holds [] := by
    rw [Vector.getElem_replicate]
    exact LoggerServiceBuffer.holds_init
  rw [loggerServiceInit, if_neg hregister]
  split
  · exact ⟨rfl, hempty⟩
  · exact ⟨rfl, hempty⟩

/-- A message that is no valid record changes nothing. -/
theorem loggerServiceProcessMessage_of_none {m : ServiceMessage} (h : m.validRecord = none)
    (service : LoggerService) :
    loggerServiceProcessMessage service m = .ok (m.verdict, service) := by
  rw [loggerServiceProcessMessage, verdict, LogEntryBinary.size]
  by_cases hnull : m.data = none ∨ m.size < 20
  · rw [if_pos hnull, if_pos hnull, Outcome.pure_eq_ok]
  · rw [if_neg hnull, if_neg hnull, processLogEntryPubsub, LogEntryBinary.size]
    by_cases hsize : m.size ≠ 20
    · rw [if_pos hsize, if_pos hsize, Outcome.pure_eq_ok]
    · rw [if_neg hsize, if_neg hsize, h]
      cases hdata : m.data with
      | none => exact absurd (.inl hdata) hnull
      | some bytes =>
          have hchecksum : logCalculateChecksum (some (.ofBytes bytes)) ≠
              (LogEntryBinary.ofBytes bytes).checksum := by
            intro heq
            rw [validRecord, hdata] at h
            simp only [not_not.mp hsize, heq, and_self, if_true] at h
            contradiction
          have hcode : (systemErrorCreate errBaseDataCorrupt .system .high
              moduleIdLogging).errorCode ≠ errBaseOk := by decide
          simp only [logVerifyEntryIntegritySafe, if_pos hchecksum, if_pos hcode,
            Outcome.pure_eq_ok]
          rfl

/-- A valid record goes to the put of its level buffer, if there is one. -/
theorem loggerServiceProcessMessage_of_some {m : ServiceMessage} (h : m.validRecord = some e)
    (service : LoggerService) :
    loggerServiceProcessMessage service m =
      if hlevel : e.level.toNat < 6 then do
        let (_, buffer) ←
          loggerServiceBufferPut service.levelBuffers[e.level.toNat] (.ofLogEntry e)
        return (loggerServiceOk,
          { service with levelBuffers := service.levelBuffers.set e.level.toNat buffer })
      else .ok (loggerServiceOk, service) := by
  obtain ⟨hsize, hchecksum, bytes, hdata, rfl⟩ := validRecord_eq_some h
  have hcode : ¬ logOk.errorCode ≠ errBaseOk := by decide
  have hfield : (LoggerServiceEntry.ofLogEntry (.ofBytes bytes)).level =
      (LogEntryBinary.ofBytes bytes).level := rfl
  rw [loggerServiceProcessMessage, if_neg (by simp [hdata, hsize, LogEntryBinary.size]),
    processLogEntryPubsub, if_neg (by simp [hsize, LogEntryBinary.size]), hdata]
  simp only [logVerifyEntryIntegritySafe, if_neg (not_not.mpr hchecksum), if_neg hcode, hfield,
    loggerServiceLevelCount]
  by_cases hlevel : (LogEntryBinary.ofBytes bytes).level.toNat < 6
  · rw [if_pos hlevel, dif_pos hlevel, Outcome.readAt_of_lt _ hlevel, Outcome.ok_bind]
    simp only [Outcome.writeAt_of_lt _ _ hlevel, Outcome.ok_bind]
  · rw [if_neg hlevel, dif_neg hlevel, Outcome.pure_eq_ok]

/-- **One message**: it is answered with its verdict, and the buffers follow. -/
theorem loggerServiceProcessMessage_spec {service : LoggerService}
    {messages : List ServiceMessage} (h : service.Holds messages) (m : ServiceMessage) :
    ∃ service', loggerServiceProcessMessage service m = .ok (m.verdict, service') ∧
      service'.Holds (messages ++ [m]) := by
  cases hvalid : m.validRecord with
  | none =>
      refine ⟨service, loggerServiceProcessMessage_of_none hvalid service, h.running, ?_⟩
      intro level
      rw [recordsOf_append, recordsOf_of_none hvalid, List.append_nil]
      exact h.buffer level
  | some e =>
      rw [loggerServiceProcessMessage_of_some hvalid, verdict_of_some hvalid]
      by_cases hlevel : e.level.toNat < 6
      · have hverify : loggerServiceVerifyEntryIntegrity (.ofLogEntry e) = true := by
          rw [loggerServiceVerifyEntryIntegrity_ofLogEntry, decide_eq_true hlevel]
        obtain ⟨result, buffer, hput, hbuffer⟩ :=
          loggerServiceBufferPut_spec (h.buffer ⟨e.level.toNat, hlevel⟩) hverify
        rw [take_append_take] at hbuffer
        rw [LoggerService.levelBuffer_eq] at hput
        rw [dif_pos hlevel, hput, Outcome.ok_bind]
        refine ⟨_, rfl, h.running, ?_⟩
        intro level
        rw [recordsOf_append, recordsOf_of_some hvalid, LoggerService.levelBuffer_eq,
          Vector.getElem_set]
        by_cases heq : e.level.toNat = level
        · rw [if_pos heq, if_pos heq, List.map_append, ← heq]
          exact hbuffer
        · rw [if_neg heq, if_neg heq, List.append_nil]
          exact h.buffer level
      · rw [dif_neg hlevel]
        refine ⟨service, rfl, h.running, ?_⟩
        intro level
        have hne : e.level.toNat ≠ level := by omega
        rw [recordsOf_append, recordsOf_of_some hvalid, if_neg hne, List.append_nil]
        exact h.buffer level

/-- **A run** of any messages after `logger_service_init`. -/
theorem run_loggerServiceProcessMessage (service : LoggerService) (time : SystemError × UInt64)
    (messages : List ServiceMessage) :
    ∃ service', run loggerServiceProcessMessage (loggerServiceInit service time).2 messages =
        .ok (messages.map verdict, service') ∧ service'.Holds messages := by
  have hstep : ∀ done (s : LoggerService) m, s.Holds done → ∃ s',
      loggerServiceProcessMessage s m = .ok (m.verdict, s') ∧ s'.Holds (done ++ [m]) :=
    fun _ _ m h => loggerServiceProcessMessage_spec h m
  exact run_of_history hstep (service.holds_init time) messages

/-! ## the reported status -/

theorem toNat_foldl_add (f : α → UInt16) (l : List α) (total : UInt16)
    (h : total.toNat + (l.map fun i => (f i).toNat).sum < 2 ^ 16) :
    (l.foldl (fun total i => total + f i) total).toNat =
      total.toNat + (l.map fun i => (f i).toNat).sum := by
  induction l generalizing total with
  | nil => rfl
  | cons i l ih =>
      rw [List.map_cons, List.sum_cons] at h ⊢
      have hadd : (total + f i).toNat = total.toNat + (f i).toNat := by
        rw [UInt16.toNat_add]
        omega
      rw [List.foldl_cons, ih _ (by omega), hadd, Nat.add_assoc]

namespace LoggerService.Holds

variable {service : LoggerService} {messages : List ServiceMessage}

/-- The number of records each level buffer holds. -/
theorem length_held (h : service.Holds messages) (level : Fin 6) :
    (service.levelBuffer level).held.length = min 100 (recordsOf messages level).length := by
  rw [(h.buffer level).held, List.length_take, List.length_map]

theorem toNat_entryCount (h : service.Holds messages) (level : Fin 6) :
    (service.levelBuffer level).entryCount.toNat = (service.levelBuffer level).held.length := by
  rw [(h.buffer level).count, (h.buffer level).held]

theorem sum_length_held_le (h : service.Holds messages) :
    ((List.finRange 6).map fun level => (service.levelBuffer level).held.length).sum ≤ 600 := by
  have hle : ∀ level ∈ List.finRange 6, (service.levelBuffer level).held.length ≤ 100 := by
    intro level _
    rw [h.length_held]
    exact Nat.min_le_left _ _
  have hsum := sum_map_le hle
  rwa [List.length_finRange] at hsum

/-- **The total is exact**: the 16-bit sum does not wrap. -/
theorem toNat_totalEntries (h : service.Holds messages) :
    service.totalEntries.toNat =
      ((List.finRange 6).map fun level => (service.levelBuffer level).held.length).sum := by
  have hle := h.sum_length_held_le
  simp only [← h.toNat_entryCount] at hle ⊢
  rw [LoggerService.totalEntries, toNat_foldl_add _ _ _ (by rw [UInt16.toNat_zero]; omega),
    UInt16.toNat_zero, Nat.zero_add]

/-- The 8-bit percentage does not wrap either. -/
theorem toNat_usagePercentage (h : service.Holds messages) :
    service.usagePercentage.toNat = service.totalEntries.toNat * 100 / 600 ∧
      service.usagePercentage.toNat ≤ 100 := by
  have hle := h.sum_length_held_le
  rw [← h.toNat_totalEntries] at hle
  have hcapacity : loggerServiceTotalCapacity.toNat = 600 := by decide
  rw [LoggerService.usagePercentage, hcapacity, UInt8.toNat_ofNat']
  omega

end LoggerService.Holds

/-- What `logger_service_get_last_status` answers after
`logger_service_get_status`. -/
def loggerServiceReport (service : LoggerService) (status : LoggerStatusResponse) :
    SystemError × Option LoggerStatusResponse :=
  loggerServiceGetLastStatus (loggerServiceGetStatus service).2 (some status)

/-- A running service reports its total and no dropped entries. -/
theorem loggerServiceReport_of_running {service : LoggerService}
    (h : service.serviceRunning = true) (status : LoggerStatusResponse) :
    ∃ report, loggerServiceReport service status = (loggerServiceOk, some report) ∧
      report.entryCount = service.totalEntries ∧ report.droppedCount = 0 := by
  have hrunning : ¬ service.serviceRunning = false := by simp [h]
  rw [loggerServiceReport, loggerServiceGetStatus, if_neg hrunning, loggerServiceGetLastStatus,
    if_neg hrunning]
  exact ⟨_, rfl, rfl, rfl⟩

/-! ## contents -/

theorem acceptedBytes_eq_map (m : ServiceMessage) :
    m.acceptedBytes = m.validRecord.map LogEntryBinary.toBytes := by
  cases h : m.validRecord with
  | none => rw [acceptedBytes, h, Option.map_none, if_neg (by decide)]
  | some e => rw [toBytes_validRecord h, Option.map_some]

/-- The bytes of the records of a level, in terms of the messages' bytes. -/
theorem map_toBytes_recordsOf (messages : List ServiceMessage) (level : Nat) :
    (recordsOf messages level).map LogEntryBinary.toBytes =
      (messages.filterMap acceptedBytes).filter fun bytes => (bytes.getD 6 0).toNat = level := by
  have hlevel (e : LogEntryBinary) : e.toBytes.getD 6 0 = e.level := rfl
  rw [funext acceptedBytes_eq_map, ← List.map_filterMap, List.filter_map, recordsOf, bucket]
  simp only [Function.comp_def, hlevel]

/-- The service entries of the records of a level have the records' bytes. -/
theorem map_toBytes_ofLogEntry (messages : List ServiceMessage) (level : Nat) :
    ((recordsOf messages level).map LoggerServiceEntry.ofLogEntry).map LoggerServiceEntry.toBytes =
      (recordsOf messages level).map LogEntryBinary.toBytes := by
  rw [List.map_map]
  apply List.map_congr_left
  intro e he
  obtain ⟨m, -, hvalid⟩ := List.mem_filterMap.mp (List.mem_of_mem_filter he)
  exact toBytes_ofLogEntry (validRecord_eq_some hvalid).2.1

/-- A message without an accepted record is answered with an error and changes
nothing. -/
def RefusesUnaccepted (service : LoggerService) (m : ServiceMessage) (reply : SystemError)
    (service' : LoggerService) : Prop :=
  m.acceptedBytes = none → reply.errorCode ≠ errBaseOk ∧ service' = service

theorem loggerServiceProcessMessage_refuses {service : LoggerService}
    {messages : List ServiceMessage} (h : service.Holds messages) (m : ServiceMessage) :
    ∃ service', loggerServiceProcessMessage service m = .ok (m.verdict, service') ∧
      RefusesUnaccepted service m m.verdict service' ∧ service'.Holds (messages ++ [m]) := by
  obtain ⟨service', heq, h'⟩ := loggerServiceProcessMessage_spec h m
  refine ⟨service', heq, ?_, h'⟩
  intro hnone
  cases hvalid : m.validRecord with
  | none =>
      rw [loggerServiceProcessMessage_of_none hvalid] at heq
      cases heq
      rw [ne_eq, errorCode_verdict_iff, hvalid]
      exact ⟨by decide, rfl⟩
  | some e =>
      rw [toBytes_validRecord hvalid] at hnone
      contradiction

theorem always_refuses (service : LoggerService) (time : SystemError × UInt64)
    (messages : List ServiceMessage) :
    Always loggerServiceProcessMessage RefusesUnaccepted (loggerServiceInit service time).2
      messages := by
  have hstep (s : LoggerService) (m : ServiceMessage) (hs : ∃ done, s.Holds done) (_ : True) :
      ∃ reply s', loggerServiceProcessMessage s m = .ok (reply, s') ∧
        RefusesUnaccepted s m reply s' ∧ ∃ done, s'.Holds done := by
    obtain ⟨done, h⟩ := hs
    obtain ⟨s', heq, hrefuses, h'⟩ := loggerServiceProcessMessage_refuses h m
    exact ⟨m.verdict, s', heq, hrefuses, done ++ [m], h'⟩
  exact always_of_invariant hstep ⟨[], service.holds_init time⟩ fun _ _ => trivial

/-- **The contents of the logger service.**  After any sequence of messages
each level buffer holds, byte for byte and in arrival order, the first 100
accepted records of its level; a message that is not accepted is answered
with an error and changes nothing; the reported total and the usage
percentage are exact. -/
theorem service_contents (service : LoggerService) (time : SystemError × UInt64)
    (messages : List ServiceMessage) :
    let started := (loggerServiceInit service time).2
    Always loggerServiceProcessMessage RefusesUnaccepted started messages ∧
    ∃ service', run loggerServiceProcessMessage started messages =
        .ok (messages.map verdict, service') ∧
      (∀ level : Fin 6,
        (service'.levelBuffer level).held.map LoggerServiceEntry.toBytes =
          ((messages.filterMap acceptedBytes).filter fun bytes =>
            (bytes.getD 6 0).toNat = level.val).take 100) ∧
      ∀ status, ∃ report,
        loggerServiceReport service' status = (loggerServiceOk, some report) ∧
        report.entryCount.toNat = ((List.finRange 6).map fun level =>
          (service'.levelBuffer level).held.length).sum ∧
        service'.usagePercentage.toNat = report.entryCount.toNat * 100 / 600 ∧
        service'.usagePercentage.toNat ≤ 100 := by
  intro started
  constructor
  · exact always_refuses service time messages
  · obtain ⟨service', hrun, h⟩ := run_loggerServiceProcessMessage service time messages
    refine ⟨service', hrun, ?_, ?_⟩
    · intro level
      rw [(h.buffer level).held, List.map_take, map_toBytes_ofLogEntry, map_toBytes_recordsOf]
    · intro status
      obtain ⟨report, hreport, hcount, -⟩ := loggerServiceReport_of_running h.running status
      refine ⟨report, hreport, ?_⟩
      rw [hcount]
      exact ⟨h.toNat_totalEntries, h.toNat_usagePercentage⟩

end AutoMlos
