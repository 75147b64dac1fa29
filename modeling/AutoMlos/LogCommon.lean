import AutoMlos.Lib.Bytes
import AutoMlos.Lib.Records
import AutoMlos.SystemErrors

/-!
# AutoMlos.LogCommon

The shared logging definitions (`lib/logging/log_common.h`): the packed
20-byte log entry, the 64-entry log buffer, and the range limits of levels,
tags and message ids.

Both structures are checksummed as memory, so each comes with the bytes it
occupies on a little-endian target.
-/

namespace AutoMlos

open Lib

/-- `LOG_LEVEL_COUNT`. -/
def logLevelCount : Nat := 4

/-- `LOG_LEVEL_ERROR`. -/
def logLevelError : UInt8 := 1

/-- `LOG_LEVEL_INFO`. -/
def logLevelInfo : UInt8 := 2

/-- `LOG_TAG_KERNEL`. -/
def logTagKernel : UInt8 := 1

/-- `LOG_MSG_STARTUP_PHASE`. -/
def logMsgStartupPhase : UInt16 := 17

/-- `LOG_TAG_COUNT`. -/
def logTagCount : Nat := 9

/-- `LOG_MSG_COUNT`. -/
def logMsgCount : Nat := 18

/-- `LOG_BUFFER_CAPACITY`. -/
def logBufferCapacity : Nat := 64

/-! ## the log entry -/

/-- `log_entry_binary_t`. -/
structure LogEntryBinary where
  timestamp : UInt32
  processId : UInt16
  level : UInt8
  tagId : UInt8
  messageId : UInt16
  data0 : UInt32
  data1 : UInt32
  checksum : UInt16
  deriving DecidableEq, Repr

namespace LogEntryBinary

/-- `sizeof(log_entry_binary_t)`. -/
def size : Nat := 20

/-- The bytes before the checksum field: the ones a checksum covers. -/
def payloadBytes (e : LogEntryBinary) : List UInt8 :=
  leBytes 4 e.timestamp.toNat ++ leBytes 2 e.processId.toNat ++ [e.level] ++ [e.tagId] ++
    leBytes 2 e.messageId.toNat ++ leBytes 4 e.data0.toNat ++ leBytes 4 e.data1.toNat

/-- The entry as it lies in memory. -/
def toBytes (e : LogEntryBinary) : List UInt8 := e.payloadBytes ++ leBytes 2 e.checksum.toNat

/-- The entry that 20 bytes of memory hold. -/
def ofBytes (bs : List UInt8) : LogEntryBinary where
  timestamp := UInt32.ofNat (leNat (bs.take 4))
  processId := UInt16.ofNat (leNat ((bs.drop 4).take 2))
  level := bs.getD 6 0
  tagId := bs.getD 7 0
  messageId := UInt16.ofNat (leNat ((bs.drop 8).take 2))
  data0 := UInt32.ofNat (leNat ((bs.drop 10).take 4))
  data1 := UInt32.ofNat (leNat ((bs.drop 14).take 4))
  checksum := UInt16.ofNat (leNat ((bs.drop 18).take 2))

/-- The entry whose bytes are all zero. -/
def zero : LogEntryBinary := ofBytes (List.replicate size 0)

@[simp] theorem length_payloadBytes (e : LogEntryBinary) : e.payloadBytes.length = 18 := by
  simp [payloadBytes]

@[simp] theorem length_toBytes (e : LogEntryBinary) : e.toBytes.length = size := by
  simp [toBytes, size]

/-- **The layout invents nothing**: 20 bytes read as an entry are the entry's
bytes. -/
theorem toBytes_ofBytes (h : bs.length = size) : (ofBytes bs).toBytes = bs := by
  have hlen : bs.length = 20 := h
  have hfield (i k : Nat) (hi : i + k ≤ 20) :
      leBytes k (leNat ((bs.drop i).take k)) = (bs.drop i).take k :=
    leBytes_leNat_take _ (by rw [List.length_drop]; omega)
  have hjoin (i k : Nat) : bs.take i ++ (bs.drop i).take k = bs.take (i + k) := by
    rw [List.take_add]
  simp only [toBytes, payloadBytes, ofBytes, toNat_ofNat_leNat_take_two,
    toNat_ofNat_leNat_take_four]
  rw [getD_eq_take_drop bs (by omega), getD_eq_take_drop bs (by omega),
    leBytes_leNat_take bs (by omega), hfield 4 2 (by omega), hfield 8 2 (by omega),
    hfield 10 4 (by omega), hfield 14 4 (by omega), hfield 18 2 (by omega), hjoin 4 2, hjoin 6 1,
    hjoin 7 1, hjoin 8 2, hjoin 10 4, hjoin 14 4, hjoin 18 2, List.take_of_length_le (by omega)]

/-- **The layout loses nothing**: the entry is read back from its bytes. -/
theorem ofBytes_toBytes (e : LogEntryBinary) : ofBytes e.toBytes = e := by
  have hword (n : Nat) (h : n < 2 ^ 32) : leNat (leBytes 4 n) = n := leNat_leBytes_of_lt h
  have hhalf (n : Nat) (h : n < 2 ^ 16) : leNat (leBytes 2 n) = n := leNat_leBytes_of_lt h
  have h0 : e.toBytes.take 4 = leBytes 4 e.timestamp.toNat := rfl
  have h4 : (e.toBytes.drop 4).take 2 = leBytes 2 e.processId.toNat := rfl
  have h6 : e.toBytes.getD 6 0 = e.level := rfl
  have h7 : e.toBytes.getD 7 0 = e.tagId := rfl
  have h8 : (e.toBytes.drop 8).take 2 = leBytes 2 e.messageId.toNat := rfl
  have h10 : (e.toBytes.drop 10).take 4 = leBytes 4 e.data0.toNat := rfl
  have h14 : (e.toBytes.drop 14).take 4 = leBytes 4 e.data1.toNat := rfl
  have h18 : (e.toBytes.drop 18).take 2 = leBytes 2 e.checksum.toNat := rfl
  simp only [ofBytes, h0, h4, h6, h7, h8, h10, h14, h18, hword _ (UInt32.toNat_lt _),
    hhalf _ (UInt16.toNat_lt _), UInt32.ofNat_toNat, UInt16.ofNat_toNat]

end LogEntryBinary

/-! ## the log buffer -/

/-- `log_buffer_t`. -/
structure LogBuffer where
  entries : Vector LogEntryBinary 64
  writeIndex : UInt16
  readIndex : UInt16
  entryCount : UInt16
  bufferSize : UInt16
  safetyChecksum : UInt16
  deriving DecidableEq, Repr

namespace LogBuffer

/-- The 1288 bytes before the `safety_checksum` field. -/
def coveredBytes (b : LogBuffer) : List UInt8 :=
  b.entries.toList.flatMap LogEntryBinary.toBytes ++ leBytes 2 b.writeIndex.toNat ++
    leBytes 2 b.readIndex.toNat ++ leBytes 2 b.entryCount.toNat ++ leBytes 2 b.bufferSize.toNat

/-- The buffer as it lies in memory. -/
def toBytes (b : LogBuffer) : List UInt8 := b.coveredBytes ++ leBytes 2 b.safetyChecksum.toNat

/-- `sizeof(log_buffer_t)`. -/
def size : Nat := 1290

/-- The 16-bit field at an offset. -/
def fieldAt (bs : List UInt8) (offset : Nat) : UInt16 :=
  UInt16.ofNat (leNat ((bs.drop offset).take 2))

/-- The buffer that 1290 bytes of memory hold. -/
def ofBytes (bs : List UInt8) : LogBuffer where
  entries := Vector.ofFn fun i => LogEntryBinary.ofBytes (recordAt LogEntryBinary.size i bs)
  writeIndex := fieldAt bs 1280
  readIndex := fieldAt bs 1282
  entryCount := fieldAt bs 1284
  bufferSize := fieldAt bs 1286
  safetyChecksum := fieldAt bs 1288

@[simp] theorem length_coveredBytes (b : LogBuffer) : b.coveredBytes.length = 1288 := by
  simp [coveredBytes, List.length_flatMap, LogEntryBinary.size]

@[simp] theorem length_toBytes (b : LogBuffer) : b.toBytes.length = size := by
  simp [toBytes, size]

/-- 1290 bytes read as a buffer are the buffer's bytes. -/
theorem toBytes_ofBytes (h : bs.length = size) : (ofBytes bs).toBytes = bs := by
  have hlen : bs.length = 1290 := h
  have hfield (i : Nat) (hi : i + 2 ≤ 1290) :
      leBytes 2 (fieldAt bs i).toNat = (bs.drop i).take 2 := by
    rw [fieldAt, toNat_ofNat_leNat_take_two]
    exact leBytes_leNat_take _ (by rw [List.length_drop]; omega)
  have hentry (i : Nat) (hi : i < 64) :
      (LogEntryBinary.ofBytes (recordAt LogEntryBinary.size i bs)).toBytes =
        recordAt LogEntryBinary.size i bs := by
    refine LogEntryBinary.toBytes_ofBytes ?_
    rw [recordAt, List.length_take, List.length_drop, hlen]
    simp only [LogEntryBinary.size]
    omega
  have hentries : (ofBytes bs).entries.toList.flatMap LogEntryBinary.toBytes = bs.take 1280 := by
    have hlist : (ofBytes bs).entries.toList =
        (List.range 64).map fun i =>
          LogEntryBinary.ofBytes (recordAt LogEntryBinary.size i bs) := by
      apply List.ext_getElem <;> simp [ofBytes]
    have hrecords := flatMap_recordAt LogEntryBinary.size 64 bs
    rw [hlist, List.flatMap_map]
    exact (List.flatMap_congr fun i hi => hentry i (List.mem_range.mp hi)).trans hrecords
  have hjoin (i : Nat) : bs.take i ++ (bs.drop i).take 2 = bs.take (i + 2) := by
    rw [List.take_add]
  rw [toBytes, coveredBytes, hentries]
  simp only [ofBytes]
  rw [hfield 1280 (by omega), hfield 1282 (by omega), hfield 1284 (by omega),
    hfield 1286 (by omega), hfield 1288 (by omega), hjoin 1280, hjoin 1282, hjoin 1284, hjoin 1286,
    hjoin 1288, List.take_of_length_le (by omega)]

/-- A zeroed buffer (`memset` to 0). -/
def zero : LogBuffer where
  entries := Vector.replicate 64 LogEntryBinary.zero
  writeIndex := 0
  readIndex := 0
  entryCount := 0
  bufferSize := 0
  safetyChecksum := 0

end LogBuffer

end AutoMlos
