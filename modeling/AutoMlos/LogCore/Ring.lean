import AutoMlos.Lib.RingBuffer
import AutoMlos.Lib.Run
import AutoMlos.LogCore

/-!
# AutoMlos.LogCore.Ring

The log buffer as a ring of 64 entries.

`Represents` relates a `log_buffer_t` to a `RingBuffer`; the put and the get
of the C code are shown to be the ring's push and pop, with the checksum as
the only obstacle: a buffer is `Intact` when its stored 16-bit checksum is
the whole byte sum of its covered bytes, and only then does the integrity
check let an operation through.  The byte sum itself is computed from the
ring (`byteSum_coveredBytes`), so whether an operation leaves the buffer
intact is a matter of arithmetic on the entries and counters.
-/

namespace AutoMlos

open Lib

/-! ## buffers and rings -/

/-- The buffer's fields hold this ring. -/
structure LogBuffer.Represents (b : LogBuffer) (r : RingBuffer LogEntryBinary 64) : Prop where
  slots : b.entries = r.slots
  write : b.writeIndex.toNat = r.write
  read : b.readIndex.toNat = r.read
  count : b.entryCount.toNat = r.count
  size : b.bufferSize = 64

/-- The stored checksum is the byte sum it stands for. -/
def LogBuffer.Intact (b : LogBuffer) : Prop := b.safetyChecksum.toNat = byteSum b.coveredBytes

instance (b : LogBuffer) : Decidable b.Intact := inferInstanceAs (Decidable (_ = _))

/-- The byte sum of the entries in all 64 slots. -/
def entriesByteSum (entries : List LogEntryBinary) : Nat :=
  (entries.map fun e => byteSum e.toBytes).sum

/-- The byte sum of the covered bytes of a buffer that holds a ring. -/
def ringByteSum (r : RingBuffer LogEntryBinary 64) : Nat :=
  entriesByteSum r.slots.toList + r.write + r.read + r.count + 64

theorem LogBuffer.Represents.byteSum_coveredBytes {b : LogBuffer} {r : RingBuffer LogEntryBinary 64}
    (h : b.Represents r) : byteSum b.coveredBytes = ringByteSum r := by
  have hw := r.write_lt
  have hr := r.read_lt
  have hc := r.count_le
  have hsize : byteSum (leBytes 2 (64 : UInt16).toNat) = 64 := by decide
  rw [LogBuffer.coveredBytes, h.slots, h.write, h.read, h.count, h.size]
  simp only [byteSum_append, byteSum_flatMap, hsize]
  rw [byteSum_leBytes_two_of_lt (by omega), byteSum_leBytes_two_of_lt (by omega),
    byteSum_leBytes_two_of_lt (by omega)]
  rfl

/-- 1288 bytes cannot overflow the 32-bit accumulator. -/
theorem byteSum_coveredBytes_lt (b : LogBuffer) : byteSum b.coveredBytes < 2 ^ 32 := by
  have hle := byteSum_le b.coveredBytes
  rw [LogBuffer.length_coveredBytes] at hle
  omega

theorem toNat_logCalculateBufferChecksum (b : LogBuffer) :
    (logCalculateBufferChecksum (some b)).toNat = byteSum b.coveredBytes := by
  rw [logCalculateBufferChecksum, toNat_sum32, Nat.mod_eq_of_lt (byteSum_coveredBytes_lt b)]

/-- The stored checksum is what the checksum update of the ring operations
leaves. -/
def LogBuffer.Stamped (b : LogBuffer) : Prop :=
  b.safetyChecksum = (logCalculateBufferChecksum (some b)).toUInt16

theorem LogBuffer.Stamped.toNat_safetyChecksum {b : LogBuffer} (h : b.Stamped) :
    b.safetyChecksum.toNat = byteSum b.coveredBytes % 2 ^ 16 := by
  rw [h, UInt32.toNat_toUInt16, toNat_logCalculateBufferChecksum]

/-- The byte sum survives the truncation to 16 bits exactly when it is below
`2 ^ 16`. -/
theorem LogBuffer.Stamped.intact_iff {b : LogBuffer} (h : b.Stamped) :
    b.Intact ↔ byteSum b.coveredBytes < 2 ^ 16 := by
  rw [LogBuffer.Intact, h.toNat_safetyChecksum]
  omega

theorem LogBuffer.Represents.intact_iff {b : LogBuffer} {r : RingBuffer LogEntryBinary 64}
    (h : b.Represents r) (hstamped : b.Stamped) : b.Intact ↔ ringByteSum r < 2 ^ 16 := by
  rw [hstamped.intact_iff, h.byteSum_coveredBytes]

/-! ## the integrity check -/

/-- The verdict on a buffer that fails its checksum. -/
def logCorrupt : SystemError := logCritical errBaseDataCorrupt

/-- The verdict of the integrity check on a buffer that holds a ring. -/
def integrityVerdict (b : LogBuffer) : SystemError := if b.Intact then logOk else logCorrupt

theorem integrityVerdict_of_intact {b : LogBuffer} (h : b.Intact) : integrityVerdict b = logOk :=
  if_pos h

theorem integrityVerdict_of_not_intact {b : LogBuffer} (h : ¬ b.Intact) :
    integrityVerdict b = logCorrupt :=
  if_neg h

theorem logVerifyBufferIntegrity_eq {b : LogBuffer} {r : RingBuffer LogEntryBinary 64}
    (h : b.Represents r) : logVerifyBufferIntegrity (some b) = integrityVerdict b := by
  have hw : ¬ b.writeIndex.toNat ≥ logBufferCapacity := by
    rw [h.write]
    exact Nat.not_le.mpr r.write_lt
  have hr : ¬ b.readIndex.toNat ≥ logBufferCapacity := by
    rw [h.read]
    exact Nat.not_le.mpr r.read_lt
  have hc : ¬ b.entryCount.toNat > logBufferCapacity := by
    rw [h.count]
    exact Nat.not_lt.mpr r.count_le
  have hsum : b.safetyChecksum.toUInt32 = logCalculateBufferChecksum (some b) ↔ b.Intact := by
    rw [← UInt32.toNat_inj, UInt16.toNat_toUInt32, toNat_logCalculateBufferChecksum]
    rfl
  rw [logVerifyBufferIntegrity, if_neg hw, if_neg hr]
  by_cases hi : b.Intact
  · rw [if_neg (not_not.mpr (hsum.mpr hi)), if_neg hc, integrityVerdict_of_intact hi]
  · rw [if_pos (mt hsum.mp hi), integrityVerdict_of_not_intact hi]
    rfl

@[simp] theorem systemErrorIsCritical_logOk : systemErrorIsCritical logOk = false := by decide

@[simp] theorem systemErrorIsCritical_logCorrupt : systemErrorIsCritical logCorrupt = true := by
  decide

@[simp] theorem errorCode_logOk : logOk.errorCode = errBaseOk := rfl

theorem errorCode_logCorrupt_ne : logCorrupt.errorCode ≠ errBaseOk := by decide

theorem errorCode_integrityVerdict_iff (b : LogBuffer) :
    (integrityVerdict b).errorCode = errBaseOk ↔ b.Intact := by
  by_cases h : b.Intact
  · simp [integrityVerdict_of_intact h, h]
  · simp [integrityVerdict_of_not_intact h, h, errorCode_logCorrupt_ne]

/-! ## the ring operations -/

section Operations

variable {b : LogBuffer} {r : RingBuffer LogEntryBinary 64}

/-- Storing an entry pushes it onto the ring and updates the checksum. -/
theorem logBufferStore_spec (h : b.Represents r) (e : LogEntryBinary) :
    ∃ b', logBufferStore b e = .ok b' ∧ b'.Represents (r.push e) ∧
      b'.Stamped := by
  have hw : b.writeIndex.toNat < 64 := h.write ▸ r.write_lt
  have hsize : b.bufferSize.toNat = 64 := by rw [h.size]; rfl
  have hlt : b.entryCount < b.bufferSize ↔ r.count < 64 := by
    rw [UInt16.lt_iff_toNat_lt, hsize, h.count]
  have hwrite : (UInt16.ofNat ((b.writeIndex.toNat + 1) % 64)).toNat = (r.write + 1) % 64 := by
    rw [UInt16.toNat_ofNat', h.write]
    omega
  simp only [logBufferStore, Outcome.writeAt_of_lt _ _ hw, hsize, Outcome.umod_of_pos,
    Outcome.ok_bind, Outcome.pure_eq_ok, Nat.zero_lt_succ, hlt]
  by_cases hfull : r.count < 64
  · rw [if_pos hfull]
    refine ⟨_, rfl, ?_, rfl⟩
    exact
      { slots := by simp only [RingBuffer.push, h.slots, h.write]
        write := hwrite
        read := by simp only [RingBuffer.push, if_pos hfull, h.read]
        count := by
          simp only [RingBuffer.push, if_pos hfull, UInt16.toNat_add, h.count, UInt16.toNat_one]
          omega
        size := h.size }
  · rw [if_neg hfull]
    refine ⟨_, rfl, ?_, rfl⟩
    exact
      { slots := by simp only [RingBuffer.push, h.slots, h.write]
        write := hwrite
        read := by
          simp only [RingBuffer.push, if_neg hfull, h.read, UInt16.toNat_ofNat']
          omega
        count := by simp only [RingBuffer.push, if_neg hfull, h.count]
        size := h.size }

/-- Taking an entry pops the ring's front and updates the checksum. -/
theorem logBufferTake_spec (h : b.Represents r) (hpos : 0 < r.count) :
    ∃ b', logBufferTake b = .ok (r.front, b') ∧ b'.Represents (r.pop hpos) ∧
      b'.Stamped := by
  have hr : b.readIndex.toNat < 64 := h.read ▸ r.read_lt
  have hsize : b.bufferSize.toNat = 64 := by rw [h.size]; rfl
  have hc := r.count_le
  have hfront : b.entries[b.readIndex.toNat] = r.front := by
    simp only [RingBuffer.front, h.slots, h.read]
  simp only [logBufferTake, Outcome.readAt_of_lt _ hr, hsize, Outcome.umod_of_pos,
    Outcome.ok_bind, Outcome.pure_eq_ok, Nat.zero_lt_succ, hfront]
  refine ⟨_, rfl, ?_, rfl⟩
  exact
    { slots := h.slots
      write := h.write
      read := by
        simp only [RingBuffer.pop, h.read, UInt16.toNat_ofNat']
        omega
      count := by
        have hcount : 0 < b.entryCount.toNat := h.count ▸ hpos
        simp only [RingBuffer.pop, RingBuffer.toNat_sub_one_of_pos hcount, h.count]
      size := h.size }

theorem logCheckBufferBoundary_eq (h : b.Represents r) :
    logCheckBufferBoundary (some b) b.writeIndex = logOk := by
  have hw : b.writeIndex.toNat < 64 := h.write ▸ r.write_lt
  have hsize : b.bufferSize.toNat = 64 := by rw [h.size]; rfl
  rw [logCheckBufferBoundary, if_neg]
  rw [ge_iff_le, UInt16.le_iff_toNat_le]
  omega

/-- A put on an intact buffer stores the entry and reports on the result. -/
theorem logBufferPutSafe_of_intact (h : b.Represents r) (hi : b.Intact) (e : LogEntryBinary) :
    ∃ b', logBufferPutSafe (some b) (some e) = .ok (integrityVerdict b', some b') ∧
      b'.Represents (r.push e) ∧ b'.Stamped := by
  obtain ⟨b', hstore, h', hsum⟩ := logBufferStore_spec h e
  refine ⟨b', ?_, h', hsum⟩
  simp only [logBufferPutSafe, logCheckBufferBoundary_eq h, logVerifyBufferIntegrity_eq h,
    integrityVerdict_of_intact hi, hstore, Outcome.ok_bind, logVerifyBufferIntegrity_eq h',
    systemErrorIsCritical_logOk, errorCode_logOk]
  by_cases hi' : b'.Intact
  · simp [integrityVerdict_of_intact hi']
  · simp [integrityVerdict_of_not_intact hi']

/-- A get on an intact buffer that is not empty returns the oldest entry. -/
theorem logBufferGetSafe_of_intact (h : b.Represents r) (hi : b.Intact) (hpos : 0 < r.count)
    (out : LogEntryBinary) :
    ∃ b', logBufferGetSafe (some b) (some out) = .ok (logOk, some b', some r.front) ∧
      b'.Represents (r.pop hpos) ∧ b'.Stamped := by
  obtain ⟨b', htake, h', hsum⟩ := logBufferTake_spec h hpos
  have hne : b.entryCount ≠ 0 := by
    intro h0
    have := h.count
    rw [h0] at this
    exact absurd this.symm (Nat.ne_of_gt hpos)
  refine ⟨b', ?_, h', hsum⟩
  simp [logBufferGetSafe, logVerifyBufferIntegrity_eq h, integrityVerdict_of_intact hi, hne, htake]

/-- A get on an intact empty buffer changes nothing. -/
theorem logBufferGetSafe_of_empty (h : b.Represents r) (hi : b.Intact) (hzero : r.count = 0)
    (out : LogEntryBinary) :
    logBufferGetSafe (some b) (some out) = .ok (logBufEmpty, some b, some out) := by
  have heq : b.entryCount = 0 := by
    apply UInt16.toNat_inj.mp
    rw [h.count, hzero]
    rfl
  simp [logBufferGetSafe, logVerifyBufferIntegrity_eq h, integrityVerdict_of_intact hi, heq]

end Operations

/-! ## the global log -/

/-- The arguments the three safety checks accept. -/
def LogArgs.InRange (args : LogArgs) : Prop :=
  args.level.toNat < logLevelCount ∧ args.tagId.toNat < logTagCount ∧
    args.messageId.toNat < logMsgCount

instance (args : LogArgs) : Decidable args.InRange := inferInstanceAs (Decidable (_ ∧ _ ∧ _))

theorem logCheckArgs_eq (args : LogArgs) :
    logCheckArgs args = if args.InRange then none else some logInvalidParam := by
  simp only [logCheckArgs, logSafetyCheckLevel, logSafetyCheckTag, logSafetyCheckMessageId,
    logSafetyCheck, LogArgs.InRange, ge_iff_le, ← Nat.not_lt]
  by_cases hlevel : args.level.toNat < logLevelCount
  · by_cases htag : args.tagId.toNat < logTagCount
    · by_cases hmsg : args.messageId.toNat < logMsgCount <;> simp [hlevel, htag, hmsg]
    · simp [hlevel, htag]
  · simp [hlevel]

theorem logPrepareEntry_succeed (args : LogArgs) (pid : UInt16) (time : UInt64) :
    logPrepareEntry args (.succeed pid time) =
      if args.InRange then .ok (logMakeEntry args pid time) else .error logInvalidParam := by
  rw [logPrepareEntry, logCheckArgs_eq]
  by_cases h : args.InRange
  · simp [if_pos h, SysReadings.succeed, systemErrorCreate]
  · simp [if_neg h]

/-- An initialised log whose buffer is intact and holds this ring. -/
structure LogSystem.Holds (log : LogSystem) (r : RingBuffer LogEntryBinary 64) : Prop where
  initialized : log.initialized = true
  represents : log.buffer.Represents r
  intact : log.buffer.Intact

/-- The ring of a zeroed buffer. -/
def zeroRing : RingBuffer LogEntryBinary 64 :=
  .empty (Vector.replicate 64 LogEntryBinary.zero) (by decide)

theorem ringByteSum_zeroRing : ringByteSum zeroRing = 64 := by
  have hzero : byteSum LogEntryBinary.zero.toBytes = 0 := by decide
  simp [ringByteSum, zeroRing, RingBuffer.empty, entriesByteSum, hzero]

theorem LogSystem.stamped_init : LogSystem.init.buffer.Stamped := by
  simp only [LogBuffer.Stamped, LogSystem.init, logSystemInitSafe, logCalculateBufferChecksum,
    LogBuffer.coveredBytes]

theorem LogSystem.holds_init : LogSystem.init.Holds zeroRing := by
  have hrep : LogSystem.init.buffer.Represents zeroRing := ⟨rfl, rfl, rfl, rfl, rfl⟩
  have hintact : LogSystem.init.buffer.Intact := by
    rw [hrep.intact_iff LogSystem.stamped_init, ringByteSum_zeroRing]
    decide
  exact ⟨rfl, hrep, hintact⟩

/-- Popping moves the read index up by one at most as far as the count goes
down, so it never raises the byte sum. -/
theorem ringByteSum_pop_le (r : RingBuffer LogEntryBinary 64) (h : 0 < r.count) :
    ringByteSum (r.pop h) ≤ ringByteSum r := by
  simp only [ringByteSum, RingBuffer.pop]
  omega

section Steps

variable {log : LogSystem} {r : RingBuffer LogEntryBinary 64}

theorem LogSystem.Holds.ringByteSum_lt (h : log.Holds r) : ringByteSum r < 2 ^ 16 := by
  rw [← h.represents.byteSum_coveredBytes, ← h.intact]
  exact log.buffer.safetyChecksum.toNat_lt

/-- An accepted record pushes its entry; it reports on the buffer it leaves,
which is intact exactly when the byte sum still fits 16 bits. -/
theorem LogSystem.step_record (h : log.Holds r) (hargs : args.InRange) (pid : UInt16)
    (time : UInt64) :
    ∃ log', log.step (.record args pid time) =
        .ok ({ error := integrityVerdict log'.buffer, entry := none }, log') ∧
      log'.initialized = true ∧ log'.buffer.Represents (r.push (logMakeEntry args pid time)) ∧
      (log'.buffer.Intact ↔ ringByteSum (r.push (logMakeEntry args pid time)) < 2 ^ 16) := by
  obtain ⟨b', hput, hrep, hstamped⟩ :=
    logBufferPutSafe_of_intact h.represents h.intact (logMakeEntry args pid time)
  refine ⟨{ log with buffer := b' }, ?_, h.initialized, hrep, hrep.intact_iff hstamped⟩
  simp only [LogSystem.step, logRecordBinarySafe, h.initialized, if_true, errorCode_logOk,
    ne_eq, not_true_eq_false, if_false, logPrepareEntry_succeed, if_pos hargs, hput,
    Outcome.ok_bind, Outcome.pure_eq_ok, Option.getD_some, errorCode_integrityVerdict_iff]
  by_cases hi : b'.Intact
  · simp [hi, integrityVerdict_of_intact hi]
  · simp [hi]

/-- A rejected record answers the parameter error and changes nothing. -/
theorem LogSystem.step_record_of_not_inRange (h : log.Holds r) (hargs : ¬ args.InRange)
    (pid : UInt16) (time : UInt64) :
    log.step (.record args pid time) = .ok ({ error := logInvalidParam, entry := none }, log) := by
  simp [LogSystem.step, logRecordBinarySafe, h.initialized, logPrepareEntry_succeed, if_neg hargs]

/-- A get from a log with unread entries returns the oldest and pops it. -/
theorem LogSystem.step_get (h : log.Holds r) (hpos : 0 < r.count) (out : LogEntryBinary) :
    ∃ log', log.step (.get out) = .ok ({ error := logOk, entry := some r.front }, log') ∧
      log'.Holds (r.pop hpos) := by
  obtain ⟨b', hget, hrep, hstamped⟩ :=
    logBufferGetSafe_of_intact h.represents h.intact hpos out
  have hi : b'.Intact :=
    (hrep.intact_iff hstamped).mpr (Nat.lt_of_le_of_lt (ringByteSum_pop_le r hpos) h.ringByteSum_lt)
  refine ⟨{ log with buffer := b' }, ?_, ⟨h.initialized, hrep, hi⟩⟩
  simp only [LogSystem.step, hget, Outcome.ok_bind, Outcome.pure_eq_ok, Option.getD_some]

/-- A get from a log without unread entries answers so and changes nothing. -/
theorem LogSystem.step_get_of_empty (h : log.Holds r) (hzero : r.count = 0)
    (out : LogEntryBinary) :
    log.step (.get out) = .ok ({ error := logBufEmpty, entry := some out }, log) := by
  simp only [LogSystem.step, logBufferGetSafe_of_empty h.represents h.intact hzero out,
    Outcome.ok_bind, Outcome.pure_eq_ok, Option.getD_some]

end Steps

end AutoMlos
