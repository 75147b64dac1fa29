import AutoMlos.LogCore.Ring

/-!
# AutoMlos.LogCore.Guards

The ring operations on a buffer with any contents.

Both operations check the buffer before they touch it: a buffer that is not
`Sound` is refused unchanged.  A sound buffer still need not have 64 slots by
its own account, since `buffer_size` is only compared with the write index,
and only by the put.  So a get can divide by a zero size, and a put can leave
a buffer that its own final check refuses.
-/

namespace AutoMlos

open Lib

/-! ## the checks -/

/-- What the integrity check asks of a buffer. -/
structure LogBuffer.Sound (b : LogBuffer) : Prop where
  write_lt : b.writeIndex.toNat < 64
  read_lt : b.readIndex.toNat < 64
  intact : b.Intact
  count_le : b.entryCount.toNat ≤ 64

instance (b : LogBuffer) : Decidable b.Sound :=
  decidable_of_iff (b.writeIndex.toNat < 64 ∧ b.readIndex.toNat < 64 ∧ b.Intact ∧
      b.entryCount.toNat ≤ 64)
    ⟨fun h => ⟨h.1, h.2.1, h.2.2.1, h.2.2.2⟩,
      fun h => ⟨h.write_lt, h.read_lt, h.intact, h.count_le⟩⟩

/-- What the put asks of a buffer: the write index is in its own bounds too. -/
def LogBuffer.Open (b : LogBuffer) : Prop := b.writeIndex < b.bufferSize ∧ b.Sound

instance (b : LogBuffer) : Decidable b.Open := inferInstanceAs (Decidable (_ ∧ _))

/-- An error that a safety check reports. -/
def Alarm (error : SystemError) : Prop :=
  error.errorCode ≠ errBaseOk ∧ systemErrorIsCritical error = true

theorem alarm_indexOob : Alarm (logCritical errBaseIndexOob) := ⟨by decide, rfl⟩

theorem alarm_dataCorrupt : Alarm (logCritical errBaseDataCorrupt) := ⟨by decide, rfl⟩

theorem stored_eq_checksum_iff (b : LogBuffer) :
    b.safetyChecksum.toUInt32 = logCalculateBufferChecksum (some b) ↔ b.Intact := by
  rw [← UInt32.toNat_inj, UInt16.toNat_toUInt32, toNat_logCalculateBufferChecksum]
  rfl

theorem logVerifyBufferIntegrity_of_sound {b : LogBuffer} (h : b.Sound) :
    logVerifyBufferIntegrity (some b) = logOk := by
  have hwrite : ¬ b.writeIndex.toNat ≥ logBufferCapacity := Nat.not_le.mpr h.write_lt
  have hread : ¬ b.readIndex.toNat ≥ logBufferCapacity := Nat.not_le.mpr h.read_lt
  have hcount : ¬ b.entryCount.toNat > logBufferCapacity := Nat.not_lt.mpr h.count_le
  have hsum := (stored_eq_checksum_iff b).mpr h.intact
  rw [logVerifyBufferIntegrity, if_neg hwrite, if_neg hread, if_neg (not_not.mpr hsum),
    if_neg hcount]

/-- The integrity check raises an alarm on every other buffer. -/
theorem logVerifyBufferIntegrity_of_not_sound {b : LogBuffer} (h : ¬ b.Sound) :
    Alarm (logVerifyBufferIntegrity (some b)) := by
  rw [logVerifyBufferIntegrity]
  split
  · exact alarm_indexOob
  · next hwrite =>
    split
    · exact alarm_indexOob
    · next hread =>
      split
      · exact alarm_dataCorrupt
      · next hsum =>
        split
        · exact alarm_dataCorrupt
        · next hcount =>
          have hintact := (stored_eq_checksum_iff b).mp (not_not.mp hsum)
          exact absurd ⟨Nat.lt_of_not_le hwrite, Nat.lt_of_not_le hread, hintact,
            Nat.le_of_not_lt hcount⟩ h

/-! ## the put -/

section Put

variable {b : LogBuffer} {e : LogEntryBinary}

/-- The put refuses a buffer that is not open, and leaves it alone. -/
theorem logBufferPutSafe_of_not_open (h : ¬ b.Open) (e : LogEntryBinary) :
    ∃ error, Alarm error ∧ logBufferPutSafe (some b) (some e) = .ok (error, some b) := by
  by_cases hindex : b.writeIndex ≥ b.bufferSize
  · have hboundary : logCheckBufferBoundary (some b) b.writeIndex = logCritical errBaseIndexOob :=
      if_pos hindex
    refine ⟨_, alarm_indexOob, ?_⟩
    simp only [logBufferPutSafe, hboundary, if_pos alarm_indexOob.1, Outcome.pure_eq_ok]
  · have hboundary : logCheckBufferBoundary (some b) b.writeIndex = logOk := if_neg hindex
    have halarm := logVerifyBufferIntegrity_of_not_sound
      fun hsound => h ⟨UInt16.not_le.mp hindex, hsound⟩
    refine ⟨_, halarm, ?_⟩
    simp [logBufferPutSafe, hboundary, halarm.2]

/-- The indices and the count that a put leaves. -/
def LogBuffer.nextWrite (b : LogBuffer) : Nat := (b.writeIndex.toNat + 1) % b.bufferSize.toNat

def LogBuffer.nextRead (b : LogBuffer) : Nat :=
  if b.entryCount < b.bufferSize then b.readIndex.toNat
  else (b.readIndex.toNat + 1) % b.bufferSize.toNat

def LogBuffer.nextCount (b : LogBuffer) : Nat :=
  if b.entryCount < b.bufferSize then b.entryCount.toNat + 1 else b.entryCount.toNat

/-- The byte sum of a 16-bit field. -/
def fieldByteSum (n : Nat) : Nat := byteSum (leBytes 2 n)

/-- With the entry stored and the indices and the count moved on, the buffer
still passes the integrity check. -/
structure LogBuffer.StaysSound (b : LogBuffer) (e : LogEntryBinary) : Prop where
  write_lt : b.nextWrite < 64
  read_lt : b.nextRead < 64
  fits : entriesByteSum (b.entries.toList.set b.writeIndex.toNat e) + fieldByteSum b.nextWrite +
      fieldByteSum b.nextRead + fieldByteSum b.nextCount + fieldByteSum b.bufferSize.toNat <
    2 ^ 16
  count_le : b.nextCount ≤ 64

/-- What a store leaves in the fields of the buffer. -/
structure StoredAs (b : LogBuffer) (e : LogEntryBinary) (b' : LogBuffer) : Prop where
  entries : b'.entries.toList = b.entries.toList.set b.writeIndex.toNat e
  write : b'.writeIndex.toNat = b.nextWrite
  read : b'.readIndex.toNat = b.nextRead
  count : b'.entryCount.toNat = b.nextCount
  size : b'.bufferSize = b.bufferSize
  stamped : b'.Stamped

/-- On an open buffer the store goes through. -/
theorem logBufferStore_of_open (h : b.Open) (e : LogEntryBinary) :
    ∃ b', logBufferStore b e = .ok b' ∧ StoredAs b e b' := by
  obtain ⟨hindex, hsound⟩ := h
  have hpos : 0 < b.bufferSize.toNat := Nat.zero_lt_of_lt (UInt16.lt_iff_toNat_lt.mp hindex)
  have hmod (n : Nat) : (UInt16.ofNat (n % b.bufferSize.toNat)).toNat = n % b.bufferSize.toNat := by
    have hlt : n % b.bufferSize.toNat < 2 ^ 16 :=
      Nat.lt_trans (Nat.mod_lt _ hpos) b.bufferSize.toNat_lt
    rw [UInt16.toNat_ofNat', Nat.mod_eq_of_lt hlt]
  simp only [logBufferStore, Outcome.writeAt_of_lt _ _ hsound.write_lt, Outcome.umod_of_pos hpos,
    Outcome.ok_bind, Outcome.pure_eq_ok]
  by_cases hroom : b.entryCount < b.bufferSize
  · rw [if_pos hroom]
    refine ⟨_, rfl, Vector.toList_set hsound.write_lt, hmod _, ?_, ?_, rfl, rfl⟩
    · rw [LogBuffer.nextRead, if_pos hroom]
    · have hcount := hsound.count_le
      rw [LogBuffer.nextCount, if_pos hroom, UInt16.toNat_add, UInt16.toNat_one]
      omega
  · rw [if_neg hroom]
    refine ⟨_, rfl, Vector.toList_set hsound.write_lt, hmod _, ?_, ?_, rfl, rfl⟩
    · rw [LogBuffer.nextRead, if_neg hroom]
      exact hmod _
    · rw [LogBuffer.nextCount, if_neg hroom]

/-- What it leaves is sound if the fields stay in range and the sum fits. -/
theorem StoredAs.sound_iff {b' : LogBuffer} (h : StoredAs b e b') : b'.Sound ↔ b.StaysSound e := by
  have hsum : byteSum b'.coveredBytes =
      entriesByteSum (b.entries.toList.set b.writeIndex.toNat e) + fieldByteSum b.nextWrite +
        fieldByteSum b.nextRead + fieldByteSum b.nextCount + fieldByteSum b.bufferSize.toNat := by
    rw [LogBuffer.coveredBytes, h.write, h.read, h.count, h.size, h.entries]
    simp only [byteSum_append, byteSum_flatMap]
    rfl
  have hintact := h.stamped.intact_iff
  rw [hsum] at hintact
  constructor
  · exact fun hb' => ⟨h.write ▸ hb'.write_lt, h.read ▸ hb'.read_lt, hintact.mp hb'.intact,
      h.count ▸ hb'.count_le⟩
  · exact fun hstays => ⟨h.write ▸ hstays.write_lt, h.read ▸ hstays.read_lt,
      hintact.mpr hstays.fits, h.count ▸ hstays.count_le⟩

/-- **A put on an open buffer** stores the entry and then answers for the buffer
it leaves. -/
theorem logBufferPutSafe_of_open (h : b.Open) (e : LogEntryBinary) :
    ∃ b', logBufferPutSafe (some b) (some e) = .ok (logVerifyBufferIntegrity (some b'), some b') ∧
      (b'.Sound ↔ b.StaysSound e) := by
  obtain ⟨b', hstore, hstored⟩ := logBufferStore_of_open h e
  refine ⟨b', ?_, hstored.sound_iff⟩
  have hboundary : logCheckBufferBoundary (some b) b.writeIndex = logOk :=
    if_neg (UInt16.not_le.mpr h.1)
  simp only [logBufferPutSafe, hboundary, errorCode_logOk, ne_eq, not_true_eq_false, if_false,
    logVerifyBufferIntegrity_of_sound h.2, systemErrorIsCritical_logOk, Bool.false_eq_true, hstore,
    Outcome.ok_bind]
  by_cases hsound : b'.Sound
  · simp [logVerifyBufferIntegrity_of_sound hsound]
  · simp [(logVerifyBufferIntegrity_of_not_sound hsound).2]

end Put

/-! ## the get -/

section Get

variable {b : LogBuffer}

/-- The get refuses a buffer that is not sound, and leaves it and the caller's
entry alone. -/
theorem logBufferGetSafe_of_not_sound (h : ¬ b.Sound) (out : LogEntryBinary) :
    ∃ error, Alarm error ∧
      logBufferGetSafe (some b) (some out) = .ok (error, some b, some out) := by
  have halarm := logVerifyBufferIntegrity_of_not_sound h
  refine ⟨_, halarm, ?_⟩
  simp only [logBufferGetSafe, if_pos halarm.2, Outcome.pure_eq_ok]

/-- A get on a sound empty buffer answers so. -/
theorem logBufferGetSafe_of_sound_empty (h : b.Sound) (hempty : b.entryCount = 0)
    (out : LogEntryBinary) :
    logBufferGetSafe (some b) (some out) = .ok (logBufEmpty, some b, some out) := by
  simp [logBufferGetSafe, logVerifyBufferIntegrity_of_sound h, hempty]

/-- A get on a sound buffer that is not empty and has a size succeeds. -/
theorem logBufferGetSafe_of_sound (h : b.Sound) (hheld : b.entryCount ≠ 0)
    (hsize : b.bufferSize ≠ 0) (out : LogEntryBinary) :
    ∃ b' e, logBufferGetSafe (some b) (some out) = .ok (logOk, some b', some e) := by
  have hpos : 0 < b.bufferSize.toNat :=
    Nat.pos_of_ne_zero fun hzero => hsize (UInt16.toNat_inj.mp hzero)
  simp only [logBufferGetSafe, logVerifyBufferIntegrity_of_sound h, systemErrorIsCritical_logOk,
    Bool.false_eq_true, if_false, if_neg hheld, logBufferTake, Outcome.readAt_of_lt _ h.read_lt,
    Outcome.umod_of_pos hpos, Outcome.ok_bind, Outcome.pure_eq_ok]
  exact ⟨_, _, rfl⟩

/-- Without a size it divides by zero. -/
theorem logBufferGetSafe_undefined (h : b.Sound) (hheld : b.entryCount ≠ 0)
    (hsize : b.bufferSize = 0) (out : LogEntryBinary) :
    logBufferGetSafe (some b) (some out) = .undefined := by
  have hzero : b.bufferSize.toNat = 0 := by rw [hsize]; rfl
  simp only [logBufferGetSafe, logVerifyBufferIntegrity_of_sound h, systemErrorIsCritical_logOk,
    Bool.false_eq_true, if_false, if_neg hheld, logBufferTake, Outcome.readAt_of_lt _ h.read_lt,
    Outcome.umod, if_pos hzero, Outcome.ok_bind, Outcome.undefined_bind]

end Get

/-! ## no fault -/

/-- The get has no size to divide by: the buffer passes its check, holds an
entry and has the size 0. -/
def LogBuffer.Sizeless (b : LogBuffer) : Prop := b.Sound ∧ b.entryCount ≠ 0 ∧ b.bufferSize = 0

/-- **The put never faults, and the get faults exactly on a buffer that passes
its check, holds an entry and has the size 0.** -/
theorem ring_operations_safe_iff (b : LogBuffer) (e out : LogEntryBinary) :
    (logBufferPutSafe (some b) (some e) ≠ .undefined ∧
        logBufferGetSafe (some b) (some out) ≠ .undefined) ↔
      ¬ b.Sizeless := by
  have hput : logBufferPutSafe (some b) (some e) ≠ .undefined := by
    by_cases hopen : b.Open
    · obtain ⟨b', heq, -⟩ := logBufferPutSafe_of_open hopen e
      simp [heq]
    · obtain ⟨error, -, heq⟩ := logBufferPutSafe_of_not_open hopen e
      simp [heq]
  rw [and_iff_right hput, not_iff_not]
  constructor
  · intro hfault
    by_contra hsized
    by_cases hsound : b.Sound
    · by_cases hempty : b.entryCount = 0
      · rw [logBufferGetSafe_of_sound_empty hsound hempty] at hfault
        contradiction
      · obtain ⟨b', e', heq⟩ :=
          logBufferGetSafe_of_sound hsound hempty (fun hzero => hsized ⟨hsound, hempty, hzero⟩) out
        rw [heq] at hfault
        contradiction
    · obtain ⟨error, -, heq⟩ := logBufferGetSafe_of_not_sound hsound out
      rw [heq] at hfault
      contradiction
  · rintro ⟨hsound, hheld, hsize⟩
    exact logBufferGetSafe_undefined hsound hheld hsize out

/-- A buffer that says it holds an entry and has no slots. -/
def sizelessBuffer : LogBuffer := { LogBuffer.zero with entryCount := 1, safetyChecksum := 1 }

/-- It passes the check, and the get divides by zero. -/
theorem ring_operations_not_always_safe :
    ¬ ∀ (b : LogBuffer) (e out : LogEntryBinary),
      logBufferPutSafe (some b) (some e) ≠ .undefined ∧
        logBufferGetSafe (some b) (some out) ≠ .undefined := by
  intro h
  have hsound : sizelessBuffer.Sound := by decide +kernel
  exact (h sizelessBuffer .zero .zero).2
    (logBufferGetSafe_undefined hsound (by decide) rfl .zero)

/-! ## no partial effect -/

/-- A put that answers with an error has changed nothing. -/
def PutAtomic (b : LogBuffer) (e : LogEntryBinary) : Prop :=
  ∀ error after, logBufferPutSafe (some b) (some e) = .ok (error, after) →
    error.errorCode ≠ errBaseOk → after = some b

/-- A get that answers with an error has changed nothing. -/
def GetAtomic (b : LogBuffer) (out : LogEntryBinary) : Prop :=
  ∀ error after entry, logBufferGetSafe (some b) (some out) = .ok (error, after, entry) →
    error.errorCode ≠ errBaseOk → after = some b

theorem getAtomic (b : LogBuffer) (out : LogEntryBinary) : GetAtomic b out := by
  intro error after entry heq herror
  by_cases hsound : b.Sound
  · by_cases hempty : b.entryCount = 0
    · rw [logBufferGetSafe_of_sound_empty hsound hempty] at heq
      cases heq
      rfl
    · by_cases hsize : b.bufferSize = 0
      · rw [logBufferGetSafe_undefined hsound hempty hsize] at heq
        contradiction
      · obtain ⟨b', e', heq'⟩ := logBufferGetSafe_of_sound hsound hempty hsize out
        rw [heq'] at heq
        cases heq
        exact absurd rfl herror
  · obtain ⟨error', -, heq'⟩ := logBufferGetSafe_of_not_sound hsound out
    rw [heq'] at heq
    cases heq
    rfl

/-- A put that is atomic has left no buffer behind that fails the check. -/
theorem PutAtomic.staysSound {b : LogBuffer} {e : LogEntryBinary} (h : PutAtomic b e)
    (hopen : b.Open) : b.StaysSound e := by
  obtain ⟨b', heq, hsound⟩ := logBufferPutSafe_of_open hopen e
  by_contra hbreaks
  -- the buffer that fails the final check is not the one that passed the first
  have halarm := logVerifyBufferIntegrity_of_not_sound (mt hsound.mp hbreaks)
  cases h _ _ heq halarm.1
  exact hbreaks (hsound.mp hopen.2)

/-- **Ring operations are atomic on error** if and only if the put refuses the
buffer as it is, or stores the entry and leaves a buffer that passes the check
too. -/
theorem ring_atomic_on_error_iff (b : LogBuffer) (e out : LogEntryBinary) :
    (PutAtomic b e ∧ GetAtomic b out) ↔ (b.Open → b.StaysSound e) := by
  rw [and_iff_left (getAtomic b out)]
  constructor
  · exact fun hatomic => hatomic.staysSound
  · intro hstays error after heq herror
    by_cases hopen : b.Open
    · obtain ⟨b', heq', hsound⟩ := logBufferPutSafe_of_open hopen e
      rw [heq', logVerifyBufferIntegrity_of_sound (hsound.mpr (hstays hopen))] at heq
      cases heq
      exact absurd rfl herror
    · obtain ⟨error', -, heq'⟩ := logBufferPutSafe_of_not_open hopen e
      rw [heq'] at heq
      cases heq
      rfl

/-- An entry of 20 bytes 255. -/
def onesEntry : LogEntryBinary := .ofBytes (List.replicate 20 255)

/-- The buffer after twelve of them. -/
def onesBuffer : LogBuffer where
  entries := Vector.ofFn fun i => if i.val < 12 then onesEntry else .zero
  writeIndex := 12
  readIndex := 0
  entryCount := 12
  bufferSize := 64
  safetyChecksum := 61288

/-- The thirteenth is stored and then reported as an error. -/
theorem ring_not_always_atomic_on_error :
    ¬ ∀ (b : LogBuffer) (e out : LogEntryBinary), PutAtomic b e ∧ GetAtomic b out := by
  intro h
  have hopen : onesBuffer.Open := by decide +kernel
  have hfits := ((h onesBuffer onesEntry .zero).1.staysSound hopen).fits
  revert hfits
  decide +kernel

end AutoMlos
