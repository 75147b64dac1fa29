import AutoMlos.LogParser
import AutoMlos.LoggerService

/-!
# AutoMlos.LoggerService.Validators

The three validators of a 20-byte record: of the library, of the logger
service and of the offline parser.

Each sums the first 18 bytes, in 16, 32 and 16 bits, and compares the result
with the last two.  18 bytes sum to less than `2 ^ 16`, so all three ask
whether the stored number is the sum (`RecordIntact`), and no single byte can
be replaced without an answer of no.
-/

namespace AutoMlos

open Lib

/-- The last two bytes of a record hold the sum of the first 18. -/
def RecordIntact (bs : List UInt8) : Prop := leNat (bs.drop 18) = byteSum (bs.take 18)

instance (bs : List UInt8) : Decidable (RecordIntact bs) := inferInstanceAs (Decidable (_ = _))

/-! ## the three checksum tests -/

/-- The test of `log_verify_entry_integrity_safe`. -/
def LogChecksumTest (bs : List UInt8) : Prop :=
  logCalculateChecksum (some (.ofBytes bs)) = (LogEntryBinary.ofBytes bs).checksum

/-- The test of `logger_service_verify_entry_integrity`. -/
def ServiceChecksumTest (bs : List UInt8) : Prop :=
  (LoggerServiceEntry.ofBytes bs).checksum = loggerServiceCalculateChecksum (.ofBytes bs)

/-- The test of `log_parser_validate_entry`. -/
def ParserChecksumTest (bs : List UInt8) : Prop :=
  sum16 (bs.take 18) = (LogEntryBinary.ofBytes bs).checksum

/-- The library returns success for a record that passes its test. -/
theorem logVerifyEntryIntegritySafe_iff (bs : List UInt8) :
    (logVerifyEntryIntegritySafe (some (.ofBytes bs))).errorCode = errBaseOk ↔
      LogChecksumTest bs := by
  rw [logVerifyEntryIntegritySafe]
  split
  · next hwrong => exact iff_of_false (by decide) hwrong
  · next hright => exact iff_of_true rfl (not_not.mp hright)

/-- The service also asks for a level it has a buffer for. -/
theorem loggerServiceVerifyEntryIntegrity_iff (bs : List UInt8) :
    loggerServiceVerifyEntryIntegrity (.ofBytes bs) = true ↔
      ServiceChecksumTest bs ∧
        (LoggerServiceEntry.ofBytes bs).level.toNat < loggerServiceLevelCount := by
  unfold loggerServiceVerifyEntryIntegrity
  split
  · next hwrong => exact iff_of_false (by decide) fun h => hwrong h.1
  · next hright =>
    split
    · next hlevel => exact iff_of_false (by decide) fun h => Nat.not_le.mpr h.2 hlevel
    · next hlevel => exact iff_of_true rfl ⟨not_not.mp hright, Nat.lt_of_not_le hlevel⟩

/-- The parser also asks for a level it knows. -/
theorem logParserValidateEntry_iff (bs : List UInt8) (stats : ParserStats) :
    (logParserValidateEntry (some bs) LogEntryBinary.size stats).1 = 0 ↔
      ParserChecksumTest bs ∧ (LogEntryBinary.ofBytes bs).level.toNat < logLevelCount := by
  have hsize : ¬ LogEntryBinary.size ≠ LogEntryBinary.size := not_not_intro rfl
  have hrejected : ¬ (-1 : Int) = 0 := by decide
  simp only [logParserValidateEntry, if_neg hsize]
  split
  · next hwrong => exact iff_of_false hrejected fun h => hwrong h.1
  · next hright =>
    split
    · next hlevel => exact iff_of_false hrejected fun h => Nat.not_le.mpr h.2 hlevel
    · next hlevel =>
      have haccepted := iff_of_true (rfl : (0 : Int) = 0)
        (⟨not_not.mp hright, Nat.lt_of_not_le hlevel⟩ : ParserChecksumTest bs ∧ _)
      split <;> exact haccepted

/-- The parser answers 0 or -1. -/
theorem logParserValidateEntry_eq_neg_one {bs : List UInt8} {stats : ParserStats}
    (h : (logParserValidateEntry (some bs) LogEntryBinary.size stats).1 ≠ 0) :
    (logParserValidateEntry (some bs) LogEntryBinary.size stats).1 = -1 := by
  have hsize : ¬ LogEntryBinary.size ≠ LogEntryBinary.size := not_not_intro rfl
  simp only [logParserValidateEntry, if_neg hsize] at h ⊢
  split
  · rfl
  · next hright =>
    rw [if_neg hright] at h
    split
    · rfl
    · next hlevel =>
      rw [if_neg hlevel] at h
      split at h <;> exact absurd rfl h

/-! ## one test in three widths -/

section Record

variable {bs : List UInt8}

theorem payloadBytes_ofBytes (h : bs.length = LogEntryBinary.size) :
    (LogEntryBinary.ofBytes bs).payloadBytes = bs.take 18 := by
  have hbytes := LogEntryBinary.toBytes_ofBytes h
  rw [← List.take_left' (LogEntryBinary.ofBytes bs).length_payloadBytes, ← LogEntryBinary.toBytes,
    hbytes]

theorem toNat_checksum_ofBytes (h : bs.length = LogEntryBinary.size) :
    (LogEntryBinary.ofBytes bs).checksum.toNat = leNat (bs.drop 18) := by
  have hshort : (bs.drop 18).length ≤ 2 := by
    rw [List.length_drop, h]
    decide
  rw [LogEntryBinary.ofBytes, toNat_ofNat_leNat_take_two, List.take_of_length_le hshort]

/-- 18 bytes do not overflow a 16-bit accumulator. -/
theorem toNat_sum16_take (bs : List UInt8) : (sum16 (bs.take 18)).toNat = byteSum (bs.take 18) := by
  have hle := byteSum_le (bs.take 18)
  have hlength := List.length_take_le 18 bs
  rw [toNat_sum16, Nat.mod_eq_of_lt (by omega)]

theorem parserChecksumTest_iff (h : bs.length = LogEntryBinary.size) :
    ParserChecksumTest bs ↔ RecordIntact bs := by
  rw [ParserChecksumTest, ← UInt16.toNat_inj, toNat_sum16_take, toNat_checksum_ofBytes h,
    RecordIntact, eq_comm]

theorem logChecksumTest_iff (h : bs.length = LogEntryBinary.size) :
    LogChecksumTest bs ↔ RecordIntact bs := by
  rw [LogChecksumTest, logCalculateChecksum, payloadBytes_ofBytes h]
  exact parserChecksumTest_iff h

/-- The service's accumulator has 32 bits and is truncated. -/
theorem serviceChecksumTest_iff (h : bs.length = LogEntryBinary.size) :
    ServiceChecksumTest bs ↔ RecordIntact bs := by
  have hpayload : (LoggerServiceEntry.ofBytes bs).payloadBytes =
      (LogEntryBinary.ofBytes bs).payloadBytes := rfl
  have hchecksum : (LoggerServiceEntry.ofBytes bs).checksum =
      (LogEntryBinary.ofBytes bs).checksum := rfl
  rw [ServiceChecksumTest, loggerServiceCalculateChecksum, toUInt16_sum32, hpayload, hchecksum,
    payloadBytes_ofBytes h, eq_comm]
  exact parserChecksumTest_iff h

/-- No byte of an intact record can be replaced. -/
theorem RecordIntact.not_set (h : RecordIntact bs) (hlen : bs.length = LogEntryBinary.size)
    {i : Nat} (hi : i < LogEntryBinary.size) {v : UInt8} (hne : bs[i]? ≠ some v) :
    ¬ RecordIntact (bs.set i v) := by
  have hsplit (cs : List UInt8) : cs.take 18 ++ cs.drop 18 = cs := List.take_append_drop 18 cs
  have hsize : LogEntryBinary.size = 20 := rfl
  have htake (cs : List UInt8) (hcs : cs.length = 20) : (cs.take 18).length = 18 := by
    rw [List.length_take, hcs]
    rfl
  have hdrop : (bs.drop 18).length = 2 := by rw [List.length_drop, hlen, hsize]
  have hstored : leNat (bs.drop 18) = byteSum (bs.take 18) % 256 ^ (bs.drop 18).length := by
    rw [← h, Nat.mod_eq_of_lt (leNat_lt _)]
  refine leNat_ne_byteSum_of_set (i := i) (v := v) hstored (by omega) ?_ ?_ ?_ ?_
  · rw [htake bs hlen, hdrop]
    exact hi
  · rwa [hsplit]
  · rw [hsplit, hsplit]
  · rw [htake bs hlen, htake _ (by rw [List.length_set, hlen, hsize])]

end Record

/-- What the three validators make of a record: their checksum tests agree, the
library accepts by its test alone and the other two by level besides, and of a
record that the library accepts no byte can be replaced unnoticed by any of
them. -/
structure ValidatorsAgree (bs : List UInt8) (stats : ParserStats) : Prop where
  tests : (LogChecksumTest bs ↔ ServiceChecksumTest bs) ∧
    (LogChecksumTest bs ↔ ParserChecksumTest bs)
  library : (logVerifyEntryIntegritySafe (some (.ofBytes bs))).errorCode = errBaseOk ↔
    LogChecksumTest bs
  service : loggerServiceVerifyEntryIntegrity (.ofBytes bs) = true ↔
    (logVerifyEntryIntegritySafe (some (.ofBytes bs))).errorCode = errBaseOk ∧
      (LoggerServiceEntry.ofBytes bs).level.toNat < loggerServiceLevelCount
  parser : (logParserValidateEntry (some bs) LogEntryBinary.size stats).1 = 0 ↔
    (logVerifyEntryIntegritySafe (some (.ofBytes bs))).errorCode = errBaseOk ∧
      (LogEntryBinary.ofBytes bs).level.toNat < logLevelCount
  detect : (logVerifyEntryIntegritySafe (some (.ofBytes bs))).errorCode = errBaseOk →
    ∀ i < LogEntryBinary.size, ∀ v, bs[i]? ≠ some v →
      (logVerifyEntryIntegritySafe (some (.ofBytes (bs.set i v)))).errorCode ≠ errBaseOk ∧
      loggerServiceVerifyEntryIntegrity (.ofBytes (bs.set i v)) = false ∧
      (logParserValidateEntry (some (bs.set i v)) LogEntryBinary.size stats).1 = -1

/-- **The three validators agree and detect any one-byte change.** -/
theorem record_validators_agree {bs : List UInt8} (h : bs.length = LogEntryBinary.size)
    (stats : ParserStats) : ValidatorsAgree bs stats := by
  have hservice : LogChecksumTest bs ↔ ServiceChecksumTest bs :=
    (logChecksumTest_iff h).trans (serviceChecksumTest_iff h).symm
  have hparser : LogChecksumTest bs ↔ ParserChecksumTest bs :=
    (logChecksumTest_iff h).trans (parserChecksumTest_iff h).symm
  have hlibrary := logVerifyEntryIntegritySafe_iff bs
  refine ⟨⟨hservice, hparser⟩, hlibrary, ?_, ?_, fun haccepted i hi v hne => ?_⟩
  · rw [loggerServiceVerifyEntryIntegrity_iff, hlibrary, hservice]
  · rw [logParserValidateEntry_iff, hlibrary, hparser]
  · have hset : (bs.set i v).length = LogEntryBinary.size := by rw [List.length_set, h]
    have hintact : RecordIntact bs := (logChecksumTest_iff h).mp (hlibrary.mp haccepted)
    have hbroken := hintact.not_set h hi hne
    refine ⟨?_, ?_, logParserValidateEntry_eq_neg_one ?_⟩
    · rw [Ne, logVerifyEntryIntegritySafe_iff, logChecksumTest_iff hset]
      exact hbroken
    · rw [← Bool.not_eq_true, loggerServiceVerifyEntryIntegrity_iff, serviceChecksumTest_iff hset]
      exact fun haccepted => hbroken haccepted.1
    · rw [Ne, logParserValidateEntry_iff, parserChecksumTest_iff hset]
      exact fun haccepted => hbroken haccepted.1

/-- A record of level 2 whose bytes before the checksum sum to 781. -/
def warmRecord : List UInt8 :=
  [16, 39, 0, 0, 5, 1, 2, 200, 7, 0, 255, 255, 0, 0, 1, 0, 0, 0, 13, 3]

/-- All three accept it, and none a changed one. -/
theorem record_validators_agree_warmRecord :
    (logVerifyEntryIntegritySafe (some (.ofBytes warmRecord))).errorCode = errBaseOk ∧
      loggerServiceVerifyEntryIntegrity (.ofBytes warmRecord) = true ∧
      (logParserValidateEntry (some warmRecord) LogEntryBinary.size .zero).1 = 0 ∧
      ValidatorsAgree warmRecord .zero := by
  have hagree : ValidatorsAgree warmRecord .zero := record_validators_agree rfl .zero
  have haccepted : (logVerifyEntryIntegritySafe (some (.ofBytes warmRecord))).errorCode =
      errBaseOk := by decide
  exact ⟨haccepted, hagree.service.mpr ⟨haccepted, by decide⟩,
    hagree.parser.mpr ⟨haccepted, by decide⟩, hagree⟩

end AutoMlos
